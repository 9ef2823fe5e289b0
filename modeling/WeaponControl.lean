import WeaponControl.Types
import WeaponControl.Weapon.Base
import WeaponControl.Weapon.Threads
import WeaponControl.Weapon.Interleavings
import WeaponControl.Weapon.StateMutex
import WeaponControl.Weapon.Sequential
import WeaponControl.Engagement.Manager
import WeaponControl.Engagement.Staleness
import WeaponControl.Engagement.Results
import WeaponControl.Engagement.Interpolation
import WeaponControl.Tube.LaunchTube
import WeaponControl.Tube.Manager
import WeaponControl.Tube.FireSolution
import WeaponControl.Tube.Assignment
import WeaponControl.Tube.Race
import WeaponControl.Tube.Environment
import WeaponControl.Tube.EmergencyStop
import WeaponControl.Tube.Queries
import WeaponControl.Tube.Planners
import WeaponControl.Tube.LaunchStatus
import WeaponControl.Tube.WeaponStates
import WeaponControl.Tube.StateLog
import WeaponControl.Tube.PlanLog
import WeaponControl.Tube.AssignmentLog
import WeaponControl.Service.MineDropPlan
import WeaponControl.Service.PlanRace
import WeaponControl.Service.TargetTracking
import WeaponControl.Service.TargetStore
import WeaponControl.Service.PlanCatalog
import WeaponControl.Service.Counting
import WeaponControl.Config.StdMap
import WeaponControl.Config.SystemConfig
import WeaponControl.Config.Getters
