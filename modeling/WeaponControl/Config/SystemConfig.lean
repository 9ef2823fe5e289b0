import Mathlib.Data.List.DropRight
import WeaponControl.Config.StdMap

/-!
# The configuration file: `SystemConfig::saveToFile` and `loadFromFile`

`saveToFile` (`SystemConfig.h`, lines 196-232) groups the configuration by
the part of each key before its first `.`, and writes each group as an INI
section: a header `[section]` unless it is the root group `""`, one line
`name=value` per entry, and a blank line.  `loadFromFile` (lines 41-86) reads
the text line by line: it trims each line, skips blank and comment lines,
takes a line `[...]` as the new section, and stores every line with a `=` as
`section.name = value`, trimmed around the first `=`.

A string is its list of characters, and the text of a file is one list of
characters; the file-system checks of both functions and the flag
`m_loaded` are left out.

Reading back what was written gives back the configuration, for every
configuration whose keys and values the format can carry
(`loadFromFile_saveToFile`); read over another configuration, it overrides
the keys it has and leaves the others (`loadFromFile_saveToFile_over`).  The proof goes the way the text is made:
`getline` gives back the written lines (`getlines_flatMap`); each line is
read as what it was written for (`loadLine_header`, `loadLine_entryLine`,
`loadLine_nil`); the root group is written before every section, since `""`
is the least name; and the loaded configuration then holds each written entry
under the key it came from (`sectionKey_splitKey`).
-/

namespace WeaponControl

namespace SystemConfig

/-! ### Strings -/

/-- `s.find(c)` and the two `substr`s around it: what precedes the first `c`,
and what follows it when there is one. -/
def breakAt (c : Char) : List Char → List Char × Option (List Char)
  | [] => ([], none)
  | d :: s => if d = c then ([], some s) else (d :: (breakAt c s).1, (breakAt c s).2)

/-- `trim(str)` (lines 235-241): without its leading and trailing characters
from `" \t\r\n"`, and empty when it has nothing else. -/
def trim (s : List Char) : List Char := (s.dropWhile Char.isWhitespace).rdropWhile Char.isWhitespace

/-- `std::getline` over the whole text (line 56): the pieces between the
`'\n'`s, without a last empty one. -/
def getlines (text : List Char) : List (List Char) :=
  if (text.splitOn '\n').getLast? = some [] then (text.splitOn '\n').dropLast else text.splitOn '\n'

theorem breakAt_append (c : Char) (b : List Char) :
    ∀ a : List Char, c ∉ a → breakAt c (a ++ c :: b) = (a, some b)
  | [], _ => by simp [breakAt]
  | d :: a, h => by
    simp only [List.mem_cons, not_or] at h
    simp [breakAt, Ne.symm h.1, breakAt_append c b a h.2]

theorem breakAt_of_not_mem (c : Char) : ∀ s : List Char, c ∉ s → breakAt c s = (s, none)
  | [], _ => rfl
  | d :: s, h => by
    simp only [List.mem_cons, not_or] at h
    simp [breakAt, Ne.symm h.1, breakAt_of_not_mem c s h.2]

/-- Where the first `c` is: the text is what precedes it, `c`, and what
follows; or there is no `c`. -/
theorem breakAt_spec (c : Char) (s : List Char) :
    (∃ a b, breakAt c s = (a, some b) ∧ s = a ++ c :: b ∧ c ∉ a) ∨ (breakAt c s = (s, none) ∧ c ∉ s) := by
  by_cases h : c ∈ s
  · obtain ⟨a, b, rfl⟩ := List.append_of_mem h
    -- the first occurrence
    induction a with
    | nil => exact .inl ⟨[], b, by simp [breakAt], rfl, by simp⟩
    | cons d a ih =>
      by_cases hd : d = c
      · subst hd; exact .inl ⟨[], a ++ d :: b, by simp [breakAt], rfl, by simp⟩
      · rcases ih (by simp) with ⟨a', b', he, hs, hc⟩ | ⟨-, hc⟩
        · refine .inl ⟨d :: a', b', by simp [breakAt, hd, he], by simp [hs], ?_⟩
          simp [Ne.symm hd, hc]
        · exact absurd (by simp) hc
  · exact .inr ⟨breakAt_of_not_mem c s h, h⟩

/-- A string with no character of `" \t\r\n"` at either end. -/
def Trimmed (s : List Char) : Prop :=
  (s.head?.all fun c => !c.isWhitespace) = true ∧ (s.getLast?.all fun c => !c.isWhitespace) = true

theorem trim_of_trimmed {s : List Char} (h : Trimmed s) : trim s = s := by
  have hd : s.dropWhile Char.isWhitespace = s := List.dropWhile_eq_self_iff.2 fun hl => by
    obtain ⟨c, cs, rfl⟩ := List.exists_cons_of_length_pos hl
    simpa using h.1
  rw [trim, hd, List.rdropWhile_eq_self_iff]
  intro hl
  have := h.2
  rw [List.getLast?_eq_getLast s hl] at this
  simpa using this

/-- Writing each line with its `'\n'` is joining them with `'\n'`, and one
empty piece after the last. -/
theorem flatMap_append_newline : ∀ ls : List (List Char),
    ls.flatMap (· ++ ['\n']) = ['\n'].intercalate (ls ++ [[]])
  | [] => rfl
  | [l] => by simp [List.intercalate]
  | l :: l' :: ls => by
    rw [List.flatMap_cons, flatMap_append_newline (l' :: ls)]
    simp [List.intercalate, List.intersperse_cons_cons]

/-- `getline` gives back lines written each with its `'\n'`, when none of
them holds one. -/
theorem getlines_flatMap (ls : List (List Char)) (h : ∀ l ∈ ls, '\n' ∉ l) :
    getlines (ls.flatMap (· ++ ['\n'])) = ls := by
  have hsplit : (ls.flatMap (· ++ ['\n'])).splitOn '\n' = ls ++ [[]] := by
    rw [flatMap_append_newline]
    refine List.splitOn_intercalate _ '\n' (fun l hl => ?_) (by simp)
    rcases List.mem_append.1 hl with hl | hl
    · exact h l hl
    · simp only [List.mem_singleton] at hl; simp [hl]
  simp [getlines, hsplit]

/-! ### Keys and sections -/

/-- A key's section and its name there (lines 208-215): what precedes and
follows its first `.`, or the root section `""` and the whole key. -/
def splitKey (key : List Char) : List Char × List Char :=
  match breakAt '.' key with
  | (sec, some keyName) => (sec, keyName)
  | (_, none) => ([], key)

/-- `key = currentSection + "." + key` unless the current section is `""`
(lines 76-78). -/
def sectionKey (currentSection key : List Char) : List Char :=
  if currentSection = [] then key else currentSection ++ '.' :: key

/-- **A key that does not start with `.` is its section and its name joined
back.** -/
theorem sectionKey_splitKey {key : List Char} (h : key.head? ≠ some '.') :
    sectionKey (splitKey key).1 (splitKey key).2 = key := by
  rcases breakAt_spec '.' key with ⟨a, b, he, hs, -⟩ | ⟨he, -⟩
  · simp only [splitKey, he, sectionKey]
    split_ifs with ha
    · subst ha; simp [hs] at h
    · exact hs.symm
  · simp [splitKey, he, sectionKey]

theorem sectionKey_of_splitKey {key sec name : List Char} (h : key.head? ≠ some '.')
    (hs : splitKey key = (sec, name)) : sectionKey sec name = key := by
  rw [← sectionKey_splitKey h, hs]

/-- Keys that do not start with `.` and split alike are equal. -/
theorem eq_of_splitKey_eq {key key' : List Char} (h : key.head? ≠ some '.') (h' : key'.head? ≠ some '.')
    (hs : splitKey key = splitKey key') : key = key' := by
  rw [← sectionKey_splitKey h, hs, sectionKey_splitKey h']

/-- Both parts of a key are made of its characters. -/
theorem splitKey_subset (key : List Char) : (splitKey key).1 ⊆ key ∧ (splitKey key).2 ⊆ key := by
  rcases breakAt_spec '.' key with ⟨a, b, he, hs, -⟩ | ⟨he, -⟩
  · simp only [splitKey, he]
    subst hs
    exact ⟨List.subset_append_left _ _, fun c hc => List.mem_append_right _ (List.mem_cons_of_mem _ hc)⟩
  · simp [splitKey, he]

/-- `sections[sec][keyName] = value`, one turn of the grouping loop
(lines 207-216); `operator[]` makes an empty section first when there is
none. -/
def groupEntry (S : StrMap (StrMap (List Char))) (e : (_ : List Char) × List Char) :
    StrMap (StrMap (List Char)) :=
  S.set (splitKey e.1).1 (((S.dlookup (splitKey e.1).1).getD .empty).set (splitKey e.1).2 e.2)

/-- The grouping loop (lines 207-216). -/
def sections (m : StrMap (List Char)) : StrMap (StrMap (List Char)) :=
  m.entries.foldl groupEntry .empty

/-- The value of name `x.2` in section `x.1`. -/
def entryAt (S : StrMap (StrMap (List Char))) (x : List Char × List Char) : Option (List Char) :=
  (S.dlookup x.1).bind (·.dlookup x.2)

/-- One turn of the grouping loop writes the entry's value at its section
and name, and nothing else. -/
theorem entryAt_groupEntry (S : StrMap (StrMap (List Char))) (e : (_ : List Char) × List Char)
    (x : List Char × List Char) :
    entryAt (groupEntry S e) x = if x = splitKey e.1 then some e.2 else entryAt S x := by
  simp only [entryAt, groupEntry, StrMap.dlookup_set]
  by_cases h1 : x.1 = (splitKey e.1).1
  · rw [if_pos h1, Option.some_bind, StrMap.dlookup_set, h1]
    by_cases h2 : x.2 = (splitKey e.1).2
    · simp [h2, Prod.ext_iff, h1]
    · rw [if_neg h2, if_neg (fun h => h2 (congrArg Prod.snd h))]
      cases S.dlookup (splitKey e.1).1 <;> rfl
  · rw [if_neg h1, if_neg (fun h => h1 (congrArg Prod.fst h))]

/-- **What the grouping keeps**: the value of a name in a section is the value
of the key that splits into them, for a configuration with no key starting
with `.`. -/
theorem entryAt_sections_iff (m : StrMap (List Char)) (hdot : ∀ e ∈ m.entries, e.1.head? ≠ some '.')
    (x : List Char × List Char) (v : List Char) :
    entryAt (sections m) x = some v ↔ ∃ key, ⟨key, v⟩ ∈ m.entries ∧ splitKey key = x := by
  -- every key splitting into `x` carries the value of the first such key
  have hw (key : List Char) (w : List Char) (hkw : ⟨key, w⟩ ∈ m.entries) :
      ∀ e ∈ m.entries, splitKey e.1 = splitKey key → e.2 = w := fun ⟨k, v'⟩ he hx => by
    obtain rfl : k = key := eq_of_splitKey_eq (hdot _ he) (hdot _ hkw) hx
    exact Option.some.inj (((m.mem_entries_iff).1 he).symm.trans ((m.mem_entries_iff).1 hkw))
  have hagree := foldl_writes_agree entryAt groupEntry (fun e => splitKey e.1) (fun e => e.2)
    entryAt_groupEntry x
  constructor
  · intro hv
    by_cases hx : x ∈ m.entries.map fun e => splitKey e.1
    · obtain ⟨⟨key, w⟩, hkw, rfl⟩ := List.mem_map.1 hx
      rw [sections, hagree w _ _ (hw key w hkw), if_pos hx] at hv
      exact ⟨key, Option.some.inj hv ▸ hkw, rfl⟩
    · rw [sections, hagree v _ _ (fun e he hex => absurd (List.mem_map.2 ⟨e, he, hex⟩) hx), if_neg hx] at hv
      simp [entryAt] at hv
  · rintro ⟨key, hkv, rfl⟩
    rw [sections, hagree v _ _ (hw key v hkv), if_pos (List.mem_map.2 ⟨_, hkv, rfl⟩)]

/-- Every section the grouping makes is the section of some key. -/
theorem exists_of_dlookup_sections {m : StrMap (List Char)} {sec : List Char} {keys : StrMap (List Char)}
    (h : (sections m).dlookup sec = some keys) : ∃ e ∈ m.entries, (splitKey e.1).1 = sec := by
  by_contra hne
  have hnot : sec ∉ m.entries.map fun e => (splitKey e.1).1 := fun hm => by
    obtain ⟨e, he, hs⟩ := List.mem_map.1 hm
    exact hne ⟨e, he, hs⟩
  rw [sections, foldl_get_of_not_mem StrMap.dlookup groupEntry (fun e => (splitKey e.1).1)
    (fun S e k hk => by simp [groupEntry, StrMap.dlookup_set, hk]) sec _ _ hnot] at h
  simp at h

/-- Every name of every section is the name of some key in it. -/
theorem exists_of_mem_sections {m : StrMap (List Char)} (hdot : ∀ e ∈ m.entries, e.1.head? ≠ some '.')
    {e : (_ : List Char) × StrMap (List Char)} {kv : (_ : List Char) × List Char}
    (he : e ∈ (sections m).entries) (hkv : kv ∈ e.2.entries) :
    ∃ key, ⟨key, kv.2⟩ ∈ m.entries ∧ splitKey key = (e.1, kv.1) :=
  (entryAt_sections_iff m hdot (e.1, kv.1) kv.2).1 <| by
    simp [entryAt, (sections m).mem_entries_iff.1 he, e.2.mem_entries_iff.1 hkv]

/-! ### Writing -/

/-- `file << "[" << sectionName << "]\n"`, without its `'\n'`. -/
def headerLine (sectionName : List Char) : List Char := '[' :: (sectionName ++ [']'])

/-- `file << key << "=" << value << "\n"`, without its `'\n'`. -/
def entryLine (kv : (_ : List Char) × List Char) : List Char := kv.1 ++ '=' :: kv.2

/-- The lines of one section (lines 219-229): its header unless it is the root
section `""`, one line per entry, and a blank line. -/
def sectionLines (e : (_ : List Char) × StrMap (List Char)) : List (List Char) :=
  (if e.1 = [] then [] else [headerLine e.1]) ++ e.2.entries.map entryLine ++ [[]]

/-- `saveToFile` (lines 196-232): the lines of the sections in the order of
their names, each with its `'\n'`. -/
def saveToFile (m : StrMap (List Char)) : List Char :=
  ((sections m).entries.flatMap sectionLines).flatMap (· ++ ['\n'])

/-! ### Reading -/

/-- One turn of the reading loop (lines 56-82), on the current section and the
configuration: the line is trimmed, then skipped when blank or a comment,
taken as the new section when it is `[...]`, and stored as
`section.name = value` when it has a `=`. -/
def loadLine (st : List Char × StrMap (List Char)) (line : List Char) : List Char × StrMap (List Char) :=
  match trim line with
  | [] => st
  | c :: rest =>
    if c = ';' ∨ c = '#' then st
    else if c = '[' ∧ (c :: rest).getLast? = some ']' then (rest.dropLast, st.2)
    else match breakAt '=' (c :: rest) with
      | (key, some value) => (st.1, st.2.set (sectionKey st.1 (trim key)) (trim value))
      | (_, none) => st

/-- `loadFromFile` (lines 41-86) on the text of the file, into the
configuration `config`, from the root section. -/
def loadFromFile (config : StrMap (List Char)) (text : List Char) : StrMap (List Char) :=
  ((getlines text).foldl loadLine ([], config)).2

/-- What the line `name=value` needs to be read back as it was written: no
`" \t\r\n"` at the ends of the name or the value, no `=` in the name, a name
that does not start a comment, and no `[name=...]` that reads as a header. -/
def EntryOk (name value : List Char) : Prop :=
  Trimmed name ∧ Trimmed value ∧ '=' ∉ name ∧ name.head? ≠ some ';' ∧ name.head? ≠ some '#' ∧
    (name.head? = some '[' → value.getLast? ≠ some ']')

/-- What the format can carry of one entry of the configuration: a key that
does not start with `.`, no `'\n'` in the key or the value, and a line
`name=value` that reads back, for the name the key has in its section. -/
def SaveableEntry (key value : List Char) : Prop :=
  key.head? ≠ some '.' ∧ '\n' ∉ key ∧ '\n' ∉ value ∧ EntryOk (splitKey key).2 value

/-- Every entry of the configuration can be carried. -/
def Saveable (m : StrMap (List Char)) : Prop := ∀ e ∈ m.entries, SaveableEntry e.1 e.2

/-- A blank line changes nothing. -/
theorem loadLine_nil (st : List Char × StrMap (List Char)) : loadLine st [] = st := rfl

/-- A header line starts its section. -/
theorem loadLine_header (st : List Char × StrMap (List Char)) (name : List Char) :
    loadLine st (headerLine name) = (name, st.2) := by
  have hlast : (headerLine name).getLast? = some ']' := by
    rw [headerLine, ← List.cons_append, List.getLast?_append]; rfl
  have htrim : trim (headerLine name) = headerLine name :=
    trim_of_trimmed ⟨rfl, by rw [hlast]; rfl⟩
  rw [loadLine, htrim, headerLine]
  dsimp only
  rw [if_neg (by decide), if_pos ⟨rfl, hlast⟩, List.dropLast_concat]

/-- A line with no blank at its ends, that is no comment and no header, and
that has a `=`, is stored under the name before its first `=`, in the current
section. -/
theorem loadLine_of_breakAt {cur : List Char} {cfg : StrMap (List Char)} {line key value : List Char}
    (ht : Trimmed line) (hc : line.head? ≠ some ';' ∧ line.head? ≠ some '#')
    (hh : line.head? = some '[' → line.getLast? ≠ some ']') (hb : breakAt '=' line = (key, some value)) :
    loadLine (cur, cfg) line = (cur, cfg.set (sectionKey cur (trim key)) (trim value)) := by
  cases line with
  | nil => cases hb
  | cons c rest =>
    rw [loadLine, trim_of_trimmed ht]
    dsimp only
    rw [if_neg (by simpa using hc), if_neg fun h => hh (by rw [h.1]; rfl) h.2, hb]

/-- The last character of an entry line: its value's, or `=`. -/
theorem getLast?_entryLine (kv : (_ : List Char) × List Char) :
    (entryLine kv).getLast? = some (kv.2.getLast?.getD '=') := by
  rw [entryLine, List.getLast?_append, List.getLast?_cons]; rfl

/-- An entry line of the format has no blank at its ends. -/
theorem trimmed_entryLine {kv : (_ : List Char) × List Char} (h : EntryOk kv.1 kv.2) :
    Trimmed (entryLine kv) := by
  obtain ⟨hk, hv, -⟩ := h
  constructor
  · cases hkv : kv.1 with
    | nil => simp [entryLine, hkv]
    | cons c ks => simpa [entryLine, hkv] using hk.1
  · rw [getLast?_entryLine]
    cases hl : kv.2.getLast? with
    | none => rfl
    | some c => simpa [hl] using hv.2

/-- An entry line stores its value under its name in the current section. -/
theorem loadLine_entryLine (cur : List Char) (cfg : StrMap (List Char)) {kv : (_ : List Char) × List Char}
    (h : EntryOk kv.1 kv.2) : loadLine (cur, cfg) (entryLine kv) = (cur, cfg.set (sectionKey cur kv.1) kv.2) := by
  have hline : loadLine (cur, cfg) (entryLine kv) = (cur, cfg.set (sectionKey cur (trim kv.1)) (trim kv.2)) := by
    obtain ⟨k, v⟩ := kv
    refine loadLine_of_breakAt (trimmed_entryLine h) ?_ (fun hh => ?_) (breakAt_append _ _ _ h.2.2.1)
      <;> obtain ⟨-, -, -, hsc, hhash, hbr⟩ := h
    · cases k <;> simp_all [entryLine]
    · -- a name starting with `[`, so the value does not end in `]`
      have hk : k.head? = some '[' := by cases k <;> simp_all [entryLine]
      rw [getLast?_entryLine]
      cases hl : v.getLast? <;> simp_all
  rw [hline, trim_of_trimmed h.1, trim_of_trimmed h.2.1]

/-! ### Reading back what was written -/

/-- The entries the lines of the sections `S` store, under the keys the reader
makes of them. -/
def loadedEntries (S : List ((_ : List Char) × StrMap (List Char))) : List ((_ : List Char) × List Char) :=
  S.flatMap fun e => e.2.entries.map fun kv => ⟨sectionKey e.1 kv.1, kv.2⟩

/-- The entry lines of a section store its entries, each under its name in the
current section. -/
theorem foldl_entryLines (sec : List Char) :
    ∀ (cfg : StrMap (List Char)) (es : List ((_ : List Char) × List Char)), (∀ kv ∈ es, EntryOk kv.1 kv.2) →
      (es.map entryLine).foldl loadLine (sec, cfg) = (sec, cfg.setAll (es.map fun kv => ⟨sectionKey sec kv.1, kv.2⟩))
  | _, [], _ => rfl
  | cfg, kv :: es, h => by
    rw [List.map_cons, List.foldl_cons, loadLine_entryLine sec cfg (h kv (List.mem_cons_self _ _)),
      foldl_entryLines sec _ es fun kv' hkv' => h kv' (List.mem_cons_of_mem _ hkv')]
    rfl

/-- The lines of a section leave the reader in that section with its entries
stored; the root section's lines need the reader still in the root section. -/
theorem foldl_sectionLines (cur : List Char) (cfg : StrMap (List Char)) (e : (_ : List Char) × StrMap (List Char))
    (hcur : e.1 = [] → cur = []) (h : ∀ kv ∈ e.2.entries, EntryOk kv.1 kv.2) :
    (sectionLines e).foldl loadLine (cur, cfg) =
      (e.1, cfg.setAll (e.2.entries.map fun kv => ⟨sectionKey e.1 kv.1, kv.2⟩)) := by
  have hheader : (if e.1 = [] then [] else [headerLine e.1]).foldl loadLine (cur, cfg) = (e.1, cfg) := by
    split_ifs with he
    · rw [he, hcur he]; rfl
    · exact loadLine_header _ _
  rw [sectionLines, List.foldl_append, List.foldl_append, hheader, foldl_entryLines e.1 cfg _ h]
  rfl

/-- **The lines of the sections, in the order of their names, store their
entries**, from the root section or from any section when the root section is
not among them. -/
theorem foldl_sections : ∀ (S : List ((_ : List Char) × StrMap (List Char))) (cur : List Char) (cfg : StrMap (List Char)),
    S.Pairwise (fun a b => a.1 < b.1) → (cur = [] ∨ ∀ e ∈ S, e.1 ≠ []) →
      (∀ e ∈ S, ∀ kv ∈ e.2.entries, EntryOk kv.1 kv.2) →
      ((S.flatMap sectionLines).foldl loadLine (cur, cfg)).2 = cfg.setAll (loadedEntries S)
  | [], _, _, _, _, _ => rfl
  | e :: S, cur, cfg, hS, hcur, h => by
    -- `""` is the least name: no section after the first is the root section
    have hlater : ∀ e' ∈ S, e'.1 ≠ [] := fun e' he' hnil => by
      have hlt := List.rel_of_pairwise_cons hS he'
      rw [hnil] at hlt
      generalize e.1 = l at hlt
      cases hlt
    have hfirst : e.1 = [] → cur = [] := fun he => hcur.resolve_right fun hne => hne e (List.mem_cons_self _ _) he
    rw [List.flatMap_cons, List.foldl_append, foldl_sectionLines cur cfg e hfirst (h e (List.mem_cons_self _ _)),
      foldl_sections S e.1 _ hS.of_cons (.inr hlater) fun e' he' => h e' (List.mem_cons_of_mem _ he'),
      ← StrMap.setAll_append]
    rfl

/-- **The reader stores exactly the entries of the configuration**, each
under its own key, for a configuration with no key starting with `.`. -/
theorem mem_loadedEntries_sections {m : StrMap (List Char)} (hdot : ∀ e ∈ m.entries, e.1.head? ≠ some '.')
    (kv : (_ : List Char) × List Char) : kv ∈ loadedEntries (sections m).entries ↔ kv ∈ m.entries := by
  simp only [loadedEntries, List.mem_flatMap, List.mem_map]
  constructor
  · rintro ⟨e, he, kv', hkv', rfl⟩
    obtain ⟨key, hmem, hsplit⟩ := exists_of_mem_sections hdot he hkv'
    rw [sectionKey_of_splitKey (hdot _ hmem) hsplit]
    exact hmem
  · intro hkv
    obtain ⟨keys, hsec, hname⟩ : ∃ keys, (sections m).dlookup (splitKey kv.1).1 = some keys ∧
        keys.dlookup (splitKey kv.1).2 = some kv.2 := by
      simpa [entryAt, Option.bind_eq_some] using (entryAt_sections_iff m hdot (splitKey kv.1) kv.2).2 ⟨kv.1, hkv, rfl⟩
    exact ⟨⟨_, keys⟩, (sections m).mem_entries_iff.2 hsec, ⟨_, kv.2⟩, keys.mem_entries_iff.2 hname,
      by rw [sectionKey_splitKey (hdot _ hkv)]⟩

/-- No line written for a configuration with no `'\n'` in its keys and
values holds one. -/
theorem newline_not_mem_sectionLines {m : StrMap (List Char)} (h : Saveable m)
    {e : (_ : List Char) × StrMap (List Char)} (he : e ∈ (sections m).entries) :
    ∀ l ∈ sectionLines e, '\n' ∉ l := by
  have hdot : ∀ e ∈ m.entries, e.1.head? ≠ some '.' := fun e he => (h e he).1
  intro l hl
  simp only [sectionLines, List.mem_append, List.mem_ite_nil_left, List.mem_map, List.mem_singleton] at hl
  rcases hl with (⟨-, rfl⟩ | ⟨kv, hkv, rfl⟩) | rfl
  · -- the header: its name is the section of some key
    obtain ⟨e', he', hsec⟩ := exists_of_dlookup_sections ((sections m).mem_entries_iff.1 he)
    have hkey := (h e' he').2.1
    simp only [headerLine, List.mem_cons, List.mem_append, List.mem_singleton, not_or]
    exact ⟨by decide, fun hn => hkey ((splitKey_subset _).1 (hsec ▸ hn)), by decide⟩
  · -- an entry: its name is part of its key
    obtain ⟨key, hmem, hsplit⟩ := exists_of_mem_sections hdot he hkv
    obtain ⟨-, hkey, hval, -⟩ := h _ hmem
    simp only [entryLine, List.mem_append, List.mem_cons, not_or]
    exact ⟨fun hn => hkey ((splitKey_subset key).2 (by rw [hsplit]; exact hn)), by decide, hval⟩
  · simp

/-- Reading what `saveToFile` wrote, over any configuration, writes the
entries of the sections under the keys the reader makes of them. -/
theorem loadFromFile_saveToFile_eq_setAll (config m : StrMap (List Char)) (h : Saveable m) :
    loadFromFile config (saveToFile m) = config.setAll (loadedEntries (sections m).entries) := by
  have hdot : ∀ e ∈ m.entries, e.1.head? ≠ some '.' := fun e he => (h e he).1
  have hok : ∀ e ∈ (sections m).entries, ∀ kv ∈ e.2.entries, EntryOk kv.1 kv.2 := fun e he kv hkv => by
    obtain ⟨key, hmem, hsplit⟩ := exists_of_mem_sections hdot he hkv
    simpa [hsplit] using (h _ hmem).2.2.2
  have hlines : ∀ l ∈ (sections m).entries.flatMap sectionLines, '\n' ∉ l := fun l hl => by
    obtain ⟨e, he, hl⟩ := List.mem_flatMap.1 hl
    exact newline_not_mem_sectionLines h he l hl
  rw [saveToFile, loadFromFile, getlines_flatMap _ hlines,
    foldl_sections _ [] config (sections m).sorted (.inl rfl) hok]

/-- **Reading back what `saveToFile` wrote gives back the configuration**, for
every configuration the format can carry. -/
theorem loadFromFile_saveToFile (m : StrMap (List Char)) (h : Saveable m) :
    loadFromFile .empty (saveToFile m) = m := by
  rw [loadFromFile_saveToFile_eq_setAll _ m h]
  exact StrMap.empty_setAll_of_mem_iff m _ (mem_loadedEntries_sections fun e he => (h e he).1)

/-- **Reading a saved configuration over another** (`loadConfigs` reads
`system.ini`, then `weapons.ini` and `dds.ini`, into one configuration): every
key of the saved configuration takes its saved value, and every other key keeps
the value it had. -/
theorem loadFromFile_saveToFile_over (config m : StrMap (List Char)) (h : Saveable m) (key : List Char) :
    (loadFromFile config (saveToFile m)).dlookup key = (m.dlookup key).or (config.dlookup key) := by
  rw [loadFromFile_saveToFile_eq_setAll config m h]
  exact StrMap.dlookup_setAll_of_mem_iff m _ (mem_loadedEntries_sections fun e he => (h e he).1) config key

/-- A configuration with a root key and keys of two sections. -/
def sampleConfig : StrMap (List Char) :=
  ((StrMap.empty.set "System.MaxLaunchTubes".toList "6".toList).set "Paths.LogPath".toList "logs/".toList).set
    "Name".toList "WCS".toList

theorem sampleConfig_round_trip :
    Saveable sampleConfig ∧ loadFromFile .empty (saveToFile sampleConfig) = sampleConfig :=
  have hs : Saveable sampleConfig := by
    unfold Saveable SaveableEntry EntryOk Trimmed
    decide
  ⟨hs, loadFromFile_saveToFile sampleConfig hs⟩

/-- `System.MaxLaunchTubes = 6` read over a configuration that has it at 8 and
also has `DDS.DomainId`: the saved value wins, the other key stays. -/
theorem sampleConfig_read_over :
    Saveable sampleConfig ∧
      (loadFromFile ((StrMap.empty.set "System.MaxLaunchTubes".toList "8".toList).set "DDS.DomainId".toList
          "83".toList) (saveToFile sampleConfig)).dlookup "System.MaxLaunchTubes".toList = some "6".toList :=
  have hs : Saveable sampleConfig := by
    unfold Saveable SaveableEntry EntryOk Trimmed
    decide
  ⟨hs, (loadFromFile_saveToFile_over _ sampleConfig hs _).trans (by decide)⟩

end SystemConfig

end WeaponControl
