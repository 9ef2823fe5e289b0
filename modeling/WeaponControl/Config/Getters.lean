import WeaponControl.Config.SystemConfig
import WeaponControl.Service.Counting

/-!
# Typed reads of the configuration: `SystemConfig::get<T>`

`get<T>(key, defaultValue)` (`SystemConfig.h`, lines 101-111) looks the key
up and converts its text with `convertValue<T>` (lines 243-268), falling back
to the default when the key is missing or the conversion throws.  The counts
the rest of the program is built from are unsigned: `getMaxLaunchTubes()` is
read as a `uint16_t` and sizes `LaunchTubeManager(0)`, `getMaxPlanLists()` and
`getMaxPlansPerList()` as `uint32_t` and size `MineDropPlanService`.  Their
conversion is `static_cast<uintW_t>(std::stoul(value))`.

`std::stoul` is `strtoul` in base 10 with a 64-bit `unsigned long`: it skips
white space, takes an optional sign and the longest run of digits, and throws
when there is no digit or the magnitude exceeds `ULONG_MAX`; a minus sign
negates in the unsigned type.  What it accepts is exactly a numeral followed
by any text (`scanDecimal_eq_some_iff`), and a count is read as the numeral's
value modulo `2 ^ W` (`get_convertUInt_numeral`): `System.MaxLaunchTubes =
65542` configures 6 tubes, `65536` none, and `-1` configures 65535, at which
the tube loops never exit (`maxLaunchTubes_minus_one`).

The `int`, `double` and `std::string` getters configure intervals, paths,
the DDS domain and the weapons' speeds and ranges, which no modelled function
reads; they are left out.
-/

namespace WeaponControl

namespace SystemConfig

/-- `isspace` in the "C" locale, the white space `strtoul` and `strtol` skip:
space, `\t`, `\n`, `\v`, `\f` and `\r`. -/
def isSpace (c : Char) : Bool := c.toNat = 32 || (9 ≤ c.toNat && c.toNat ≤ 13)

/-- The optional sign before the digits: whether it is `-`, and what follows. -/
def takeSign : List Char → Bool × List Char
  | [] => (false, [])
  | c :: cs => if c = '-' then (true, cs) else if c = '+' then (false, cs) else (false, c :: cs)

/-- The value of a run of decimal digits. -/
def decimalValue (ds : List Char) : ℕ := ds.foldl (fun n d => 10 * n + (d.toNat - '0'.toNat)) 0

/-- What `strtoul` and `strtol` read in base 10: white space, an optional
sign, and the longest run of digits after it; `none` when there is no digit,
where they convert nothing. -/
def scanDecimal (s : List Char) : Option (Bool × ℕ) :=
  let (neg, rest) := takeSign (s.dropWhile isSpace)
  match rest.takeWhile Char.isDigit with
  | [] => none
  | ds => some (neg, decimalValue ds)

/-- The text of a numeral: white space, a sign that is `-` exactly for `neg`
(none or `+` otherwise), at least one digit, and a rest that does not start
with a digit. -/
def IsNumeral (neg : Bool) (ws sgn ds rest : List Char) : Prop :=
  (∀ c ∈ ws, isSpace c = true) ∧ (if neg then sgn = ['-'] else sgn = [] ∨ sgn = ['+']) ∧
    ds ≠ [] ∧ (∀ c ∈ ds, c.isDigit = true) ∧ ∀ c ∈ rest.head?, c.isDigit = false

theorem isSpace_of_isDigit {c : Char} (h : c.isDigit = true) : isSpace c = false := by
  simp only [Char.isDigit, Bool.and_eq_true, decide_eq_true_eq] at h
  have h1 : 48 ≤ c.toNat := h.1
  simp only [isSpace, Bool.or_eq_false_iff, decide_eq_false_iff_not, Bool.and_eq_false_iff]
  omega

theorem dropWhile_isSpace_cons {c : Char} (h : isSpace c = false) (cs : List Char) :
    (c :: cs).dropWhile isSpace = c :: cs := by
  simp [List.dropWhile, h]

theorem takeSign_of_digit {c : Char} (hc : c.isDigit = true) (cs : List Char) :
    takeSign (c :: cs) = (false, c :: cs) := by
  have h1 : c ≠ '-' := by rintro rfl; simp at hc
  have h2 : c ≠ '+' := by rintro rfl; simp at hc
  simp [takeSign, h1, h2]

theorem takeWhile_digits {ds rest : List Char} (hdig : ∀ c ∈ ds, c.isDigit = true)
    (hrest : ∀ c ∈ rest.head?, c.isDigit = false) : (ds ++ rest).takeWhile Char.isDigit = ds := by
  rw [List.takeWhile_append_of_pos hdig]
  cases rest with
  | nil => simp
  | cons c cs => simp [List.takeWhile, hrest c rfl]

/-- **A numeral reads as its sign and value.** -/
theorem scanDecimal_complete {neg : Bool} {ws sgn ds rest : List Char} (h : IsNumeral neg ws sgn ds rest) :
    scanDecimal (ws ++ sgn ++ ds ++ rest) = some (neg, decimalValue ds) := by
  obtain ⟨hws, hsgn, hds, hdig, hrest⟩ := h
  obtain ⟨d, ds', rfl⟩ := List.exists_cons_of_ne_nil hds
  have hd : d.isDigit = true := hdig d (List.mem_cons_self _ _)
  -- after the white space, the sign is read and the digits follow
  have hsign : takeSign ((sgn ++ d :: ds' ++ rest).dropWhile isSpace) = (neg, d :: ds' ++ rest) := by
    cases neg
    · rcases hsgn with rfl | rfl
      · rw [List.nil_append, List.cons_append, dropWhile_isSpace_cons (isSpace_of_isDigit hd),
          takeSign_of_digit hd]
      · simp [List.dropWhile, isSpace, takeSign]
    · subst hsgn
      simp [List.dropWhile, isSpace, takeSign]
  have hdrop : (ws ++ sgn ++ d :: ds' ++ rest).dropWhile isSpace = (sgn ++ d :: ds' ++ rest).dropWhile isSpace := by
    rw [List.append_assoc, List.append_assoc, List.dropWhile_append_of_pos hws, List.append_assoc]
  unfold scanDecimal
  rw [hdrop, hsign]
  simp only [takeWhile_digits hdig hrest]

/-- The sign `takeSign` takes off. -/
theorem takeSign_spec (t : List Char) :
    ∃ sgn, t = sgn ++ (takeSign t).2 ∧ (if (takeSign t).1 then sgn = ['-'] else sgn = [] ∨ sgn = ['+']) := by
  cases t with
  | nil => exact ⟨[], rfl, .inl rfl⟩
  | cons c cs =>
    by_cases h1 : c = '-'
    · exact ⟨['-'], by simp [takeSign, h1], by simp [takeSign, h1]⟩
    by_cases h2 : c = '+'
    · exact ⟨['+'], by simp [takeSign, h2], by simp [takeSign, h2]⟩
    · exact ⟨[], by simp [takeSign, h1, h2], by simp [takeSign, h1, h2]⟩

/-- **Only a numeral reads**, as its sign and value. -/
theorem scanDecimal_sound {s : List Char} {neg : Bool} {v : ℕ} (h : scanDecimal s = some (neg, v)) :
    ∃ ws sgn ds rest, s = ws ++ sgn ++ ds ++ rest ∧ IsNumeral neg ws sgn ds rest ∧ v = decimalValue ds := by
  obtain ⟨sgn, hst, hsgn⟩ := takeSign_spec (s.dropWhile isSpace)
  unfold scanDecimal at h
  rcases hts : takeSign (s.dropWhile isSpace) with ⟨neg', r⟩
  rw [hts] at h hst hsgn
  dsimp only at h hst hsgn
  rcases hds : r.takeWhile Char.isDigit with _ | ⟨d, ds'⟩ <;> rw [hds] at h
  · simp at h
  obtain ⟨rfl, rfl⟩ : neg' = neg ∧ decimalValue (d :: ds') = v := by simpa using h
  -- the rest does not continue the digits
  have hrest : ∀ c ∈ (r.dropWhile Char.isDigit).head?, c.isDigit = false := fun c hc => by
    have := List.head?_dropWhile_not Char.isDigit r
    rw [Option.mem_def.1 hc] at this
    exact this
  refine ⟨s.takeWhile isSpace, sgn, d :: ds', r.dropWhile Char.isDigit, ?_,
    ⟨fun c hc => List.mem_takeWhile_imp hc, hsgn, List.cons_ne_nil _ _,
      fun c hc => List.mem_takeWhile_imp (hds ▸ hc), hrest⟩, rfl⟩
  rw [← hds, List.append_assoc (s.takeWhile isSpace ++ sgn), List.takeWhile_append_dropWhile,
    List.append_assoc, ← hst, List.takeWhile_append_dropWhile]

theorem scanDecimal_eq_some_iff {s : List Char} {neg : Bool} {v : ℕ} :
    scanDecimal s = some (neg, v) ↔
      ∃ ws sgn ds rest, s = ws ++ sgn ++ ds ++ rest ∧ IsNumeral neg ws sgn ds rest ∧ v = decimalValue ds := by
  constructor
  · exact scanDecimal_sound
  · rintro ⟨ws, sgn, ds, rest, rfl, h, rfl⟩
    exact scanDecimal_complete h

/-- `std::stoul(value)` with a 64-bit `unsigned long`: `none` where it throws,
`invalid_argument` when nothing is read and `out_of_range` when the magnitude
exceeds `ULONG_MAX`; a minus sign negates in the unsigned type. -/
def stoul (s : List Char) : Option ℕ :=
  (scanDecimal s).bind fun p =>
    if p.2 < 2 ^ 64 then some (if p.1 then (2 ^ 64 - p.2) % 2 ^ 64 else p.2) else none

/-- `convertValue<uintW_t>`: `static_cast<uintW_t>(std::stoul(value))`. -/
def convertUInt (w : ℕ) (value : List Char) : Option ℕ := (stoul value).map (· % 2 ^ w)

/-- `get<T>(key, defaultValue)` with `convertValue<T>` as `convert`. -/
def get {α : Type} (convert : List Char → Option α) (config : StrMap (List Char)) (key : List Char)
    (defaultValue : α) : α :=
  match config.dlookup key with
  | none => defaultValue
  | some value => (convert value).getD defaultValue

/-- `getMaxLaunchTubes()`. -/
def getMaxLaunchTubes (config : StrMap (List Char)) : ℕ :=
  get (convertUInt 16) config "System.MaxLaunchTubes".toList 6

/-- `getMaxPlanLists()`. -/
def getMaxPlanLists (config : StrMap (List Char)) : ℕ :=
  get (convertUInt 32) config "MineDropPlan.MaxPlanLists".toList 15

/-- `getMaxPlansPerList()`. -/
def getMaxPlansPerList (config : StrMap (List Char)) : ℕ :=
  get (convertUInt 32) config "MineDropPlan.MaxPlansPerList".toList 15

/-- **A configured count is read modulo the width of its type**: when the
text under `key` is a numeral, with any text after it, `get<uintW_t>` gives
the numeral's value modulo `2 ^ W`, a minus sign counting down from `2 ^ 64`,
and the default when the magnitude reaches `2 ^ 64`. -/
theorem get_convertUInt_numeral {w : ℕ} (hw : w ≤ 64) {config : StrMap (List Char)} {key : List Char}
    (d : ℕ) {neg : Bool} {ws sgn ds rest : List Char} (hnum : IsNumeral neg ws sgn ds rest)
    (hkey : config.dlookup key = some (ws ++ sgn ++ ds ++ rest)) :
    get (convertUInt w) config key d =
      if decimalValue ds < 2 ^ 64 then (if neg then 2 ^ 64 - decimalValue ds else decimalValue ds) % 2 ^ w
      else d := by
  have hdvd : 2 ^ w ∣ 2 ^ 64 := pow_dvd_pow 2 hw
  simp only [get, hkey, convertUInt, stoul, scanDecimal_complete hnum, Option.some_bind]
  split_ifs <;> simp only [Option.map_some', Option.map_none', Option.getD_some, Option.getD_none,
    Nat.mod_mod_of_dvd _ hdvd]

end SystemConfig

/-- `System.MaxLaunchTubes = -1` configures 65535 tubes, and the tube loops
of `LaunchTubeManager(0)` never exit. -/
theorem SystemConfig.maxLaunchTubes_minus_one :
    SystemConfig.IsNumeral true [] ['-'] ['1'] [] ∧
      (StrMap.empty.set "System.MaxLaunchTubes".toList "-1".toList).dlookup "System.MaxLaunchTubes".toList =
        some ([] ++ ['-'] ++ ['1'] ++ []) ∧
      SystemConfig.getMaxLaunchTubes (StrMap.empty.set "System.MaxLaunchTubes".toList "-1".toList) = 65535 ∧
      ∀ fuel, tubeLoop (LaunchTubeManager.create 0
        (SystemConfig.getMaxLaunchTubes (StrMap.empty.set "System.MaxLaunchTubes".toList "-1".toList))) fuel =
          none := by
  have hnum : SystemConfig.IsNumeral true [] ['-'] ['1'] [] := by simp [SystemConfig.IsNumeral]
  have hkey : (StrMap.empty.set "System.MaxLaunchTubes".toList "-1".toList).dlookup
      "System.MaxLaunchTubes".toList = some ([] ++ ['-'] ++ ['1'] ++ []) := by decide
  have h := SystemConfig.get_convertUInt_numeral (show 16 ≤ 64 by norm_num) 6 hnum hkey
  have h65535 : SystemConfig.getMaxLaunchTubes (StrMap.empty.set "System.MaxLaunchTubes".toList "-1".toList)
      = 65535 := h.trans (by decide)
  refine ⟨hnum, hkey, h65535, fun fuel => ?_⟩
  rw [h65535, tubeLoop, show BitVec.ofNat 16 (LaunchTubeManager.create 0 65535).maxTubeNumber =
    BitVec.allOnes 16 by decide]
  exact countUp_allOnes fuel _

end WeaponControl
