import ProcessStubs.CommandLine.Session
import ProcessStubs.Proofs.LevelTexts

/-!
# The level in force

Logging can begin in two ways: with nothing given but the environment, or with a session of the
program, whose options may ask for more or less detail. In both the level that the environment gives
should be in force, and without one the level of warnings in the first way, and in the second the
level that the options ask for.

A session does so for all options that it accepts. The first way does so with one exception: it
takes the level that sets no limit for none at all. That level is the one named `NOTSET`, and it is
also the number that zeros denote.

## Main definitions

* `FollowsOptions`: a call and the options before its command that a session goes on by.
* `SessionsGoOnAt`: the level of all sessions in an environment.
* `MeansUnset`: the texts that give the level that sets no limit.
* `HonoursEnvironment`: both ways begin with the level that the environment gives.

## Main results

* `Session.logLevel_ofCommand`: a command leaves the level as it is.
* `sessionsGoOnAt`: the level of sessions, whatever the environment says.
* `environmentLevel_eq_unset_iff`: the texts that give the level that sets no limit.
* `honoursEnvironment_iff`: in which environments both ways agree.
-/

namespace ProcessStubs

open Terminal Text

namespace CommandLine

namespace Session

variable {m : Manner} {files : FileTree}

/-! ### Commands leave the level as it is -/

/-- Settings are loaded and used at the level of the session, if what they are used for keeps it. -/
theorem logLevel_withSettings {file : Option String} {overrides : Overrides}
    {next : Settings → Screen → Session}
    (keeps : ∀ s screen, (next s screen).logLevel = m.logLevel) :
    (withSettings m files file overrides next).logLevel = m.logLevel := by
  have refused (fault : SetupFault) (screen : Screen) :
      (unusable m files fault screen).logLevel = m.logLevel := by
    unfold unusable
    split <;> rfl
  simp only [withSettings]
  split
  · exact refused _ _
  · split
    · exact refused _ _
    · exact keeps _ _

/-- Settings are shown at the level of the session. -/
theorem logLevel_showSettings (file : Option String) :
    (showSettings m files file).logLevel = m.logLevel := by
  refine logLevel_withSettings fun s screen => ?_
  cases s.toToml <;> rfl

/-- Modules are generated at the level of the session. -/
theorem logLevel_generates (file : Option String) (overrides : Overrides) :
    (generates m files file overrides).logLevel = m.logLevel := by
  refine logLevel_withSettings fun s screen => ?_
  dsimp only
  split
  · split <;> rfl
  · rfl
  · rfl

/-- **A command leaves the level as it is**, however it ends. -/
theorem logLevel_ofCommand (m : Manner) (files : FileTree) (command : Topic)
    (arguments : List String) : (ofCommand m files command arguments).logLevel = m.logLevel := by
  rw [ofCommand]
  split
  · rfl
  · rfl
  · rfl
  · rfl
  · exact logLevel_showSettings _
  · exact logLevel_generates _ _

end Session

/-! ### The level of sessions -/

open Session

/-- **The options that a call gives before its command** and that a session goes on by: they can be
read and do not ask for help, and the command, if there is one, is known. -/
def FollowsOptions (arguments : List String) (given : List (GivenOption ProgramOption)) : Prop :=
  ∃ rest, readOptions programOptions false arguments = .ok (given, rest) ∧
    isGiven given .help = false ∧ ∀ name ∈ rest.head?, (Assoc.get? name commands).isSome = true

/-- **The level of all sessions in an environment**: once the options before the command ask for a
level, a session goes on at the one that is chosen for it, whatever comes then, and every call that
gives such options ends at this level. -/
def SessionsGoOnAt (environment : Option String) (chosen : Log.Level → Log.Level) : Prop :=
  ∀ painted files given asked,
    Log.detailLevel (countGiven given .verbose) (countGiven given .quiet) = some asked →
      (∃ m : Manner, m.logLevel = chosen asked ∧
        ∀ next, begins ⟨environment, painted⟩ files given next = next m) ∧
      ∀ arguments, FollowsOptions arguments given →
        (run ⟨environment, painted⟩ files arguments).logLevel = chosen asked

variable {s : Surroundings} {files : FileTree} {given : List (GivenOption ProgramOption)}

/-- A call whose options a session goes on by runs a command after them, or says what the commands
are. -/
theorem exists_run_eq_begins {arguments : List String} (h : FollowsOptions arguments given) :
    ∃ next, run s files arguments = begins s files given next ∧
      ∀ m, (next m).logLevel = m.logLevel := by
  obtain ⟨rest, read, helpless, known⟩ := h
  rw [run, read]
  simp only [helpless, Bool.false_eq_true, if_false]
  cases rest with
  | nil => exact ⟨_, rfl, fun _ => rfl⟩
  | cons name rest =>
      obtain ⟨command, found⟩ := Option.isSome_iff_exists.mp (known name rfl)
      simp only [found]
      exact ⟨_, rfl, fun m => logLevel_ofCommand m files command rest⟩

/-- **Sessions go on at the level that the environment gives**, or else at the one that the options
ask for. -/
theorem sessionsGoOnAt {environment : Option String} {level? : Option Log.Level}
    (read : Log.environmentLevel environment = .ok level?) :
    SessionsGoOnAt environment level?.getD := by
  intro painted files given asked accepted
  have goesOn (next : Manner → Session) : begins ⟨environment, painted⟩ files given next =
      next ⟨⟨!isGiven given .plain⟩, painted, level?.getD asked,
        countGiven given .verbose - countGiven given .quiet⟩ := by
    rw [begins]
    simp only [accepted, read]
  refine ⟨⟨_, rfl, goesOn⟩, fun arguments follows => ?_⟩
  obtain ⟨next, begun, keeps⟩ := exists_run_eq_begins follows
  rw [begun, goesOn, keeps]

end CommandLine

/-! ### The level that sets no limit -/

namespace Log

open CommandLine

variable {environment : Option String} {text : String}

/-- **A text gives the level that sets no limit**: it is the name of this level, in upper or lower
case, or a number of zeros that is not too long. There may be blanks around. -/
def MeansUnset (text : String) : Prop :=
  upperText (strip text) = "NOTSET" ∨
    strip text ≠ "" ∧ (∀ c ∈ (strip text).toList, decimalValue? c = some 0) ∧
      (strip text).toList.length ≤ maxDecimalDigits

/-- Zeros denote zero, and nothing else does. -/
theorem denotes_zero_iff {cs : List Char} :
    Denotes cs 0 ↔ ∀ c ∈ cs, decimalValue? c = some 0 := by
  constructor
  · rintro ⟨digits, values, sum⟩
    have zeros : ∀ d ∈ digits, d = 0 := fun d hd =>
      Nat.digits_zero_of_eq_zero (by decide) sum.symm d (List.mem_reverse.mpr hd)
    clear sum
    induction values with
    | nil => simp
    | cons value _ ih =>
        obtain ⟨zero, others⟩ := List.forall_mem_cons.mp zeros
        exact List.forall_mem_cons.mpr ⟨zero ▸ value, ih others⟩
  · intro zeros
    refine ⟨cs.map fun _ => 0, ?_, ?_⟩
    · rw [List.forall₂_map_right_iff, List.forall₂_same]
      exact zeros
    · rw [List.map_const', List.reverse_replicate, Nat.ofDigits_replicate_zero]

/-- The level that sets no limit has one name. -/
theorem mem_levelAliases_unset_iff {name : String} :
    (name, unsetLevel) ∈ levelAliases ↔ name = "NOTSET" := by
  simp [levelAliases, unsetLevel, traceLevel, debugLevel, infoLevel, warningLevel, errorLevel,
    criticalLevel]

/-- **Which texts give the level that sets no limit.** -/
theorem environmentLevel_eq_unset_iff :
    environmentLevel (some text) = .ok (some unsetLevel) ↔ MeansUnset text := by
  rw [environmentLevel_eq_some_iff]
  by_cases digital : strip text ≠ "" ∧ ∀ c ∈ (strip text).toList, isDigit c = true
  · obtain ⟨nonempty, digits⟩ := digital
    constructor
    · rintro ⟨gives, readable⟩
      obtain ⟨n, denotes, short⟩ := exists_denotes_of_readable nonempty digits readable
      have zero : (0 : Int) = n := (givesLevel_iff_of_digits nonempty digits denotes).mp gives
      obtain rfl : n = 0 := by omega
      exact .inr ⟨nonempty, denotes_zero_iff.mp denotes, short⟩
    · rintro (named | ⟨-, zeros, short⟩)
      · obtain ⟨c, hc, other⟩ := exists_of_mem_levelAliases (mem_levelAliases_unset_iff.mpr named)
        rw [upperText_of_digits digits] at hc
        rw [digits c hc] at other
        cases other
      · have denotes := denotes_zero_iff.mpr zeros
        refine ⟨(givesLevel_iff_of_digits nonempty digits denotes).mpr rfl, ?_⟩
        rintro ⟨-, -, ⟨c, hc, valueless⟩ | long⟩
        · rw [zeros c hc] at valueless
          cases valueless
        · omega
  · rw [givesLevel_iff_of_other digital, mem_levelAliases_unset_iff]
    constructor
    · rintro ⟨named, -⟩
      exact .inl named
    · rintro (named | ⟨nonempty, zeros, -⟩)
      · exact ⟨named, fun unreadable => digital ⟨unreadable.nonempty, unreadable.digits⟩⟩
      · exact absurd ⟨nonempty, fun c hc => isDigit_of_decimalValue? (zeros c hc)⟩ digital

/-! ### Both ways of beginning -/

/-- **Both ways of beginning honour the environment**: where it gives a level, logging that nothing
else is given begins at this level, and so does every session; where it gives none, logging begins
at the level of warnings and sessions at the one that their options ask for. -/
structure HonoursEnvironment (environment : Option String) : Prop where
  given : ∀ l, environmentLevel environment = .ok (some l) →
    levelInForce none environment = .ok l ∧ SessionsGoOnAt environment fun _ => l
  notGiven : environmentLevel environment = .ok none →
    levelInForce none environment = .ok warningLevel ∧ SessionsGoOnAt environment id

/-- Logging that nothing else is given begins at the level of the environment, but for the one that
sets no limit. -/
theorem levelInForce_none {level? : Option Level}
    (read : environmentLevel environment = .ok level?) :
    levelInForce none environment =
      .ok ((level?.filter (· ≠ unsetLevel)).getD warningLevel) := by
  rw [levelInForce, defaultLevel, read]
  rfl

/-- **In which environments both ways of beginning agree**: in all but those that give the level
that sets no limit, by its name or by zeros. In these, logging begins at the level of warnings, and
sessions go on without a limit. -/
theorem honoursEnvironment_iff (environment : Option String) :
    (HonoursEnvironment environment ↔ environmentLevel environment ≠ .ok (some unsetLevel)) ∧
    (environmentLevel environment = .ok (some unsetLevel) ↔ ∃ text ∈ environment, MeansUnset text) ∧
    (environmentLevel environment = .ok (some unsetLevel) →
      levelInForce none environment = .ok warningLevel ∧
        SessionsGoOnAt environment fun _ => unsetLevel) := by
  refine ⟨⟨?_, ?_⟩, ?_, fun read => ⟨levelInForce_none read, sessionsGoOnAt read⟩⟩
  · intro honours read
    have limited := (honours.given _ read).1
    rw [levelInForce_none read] at limited
    exact absurd (Except.ok.inj limited) (by decide)
  · intro limited
    refine ⟨fun l read => ⟨?_, sessionsGoOnAt read⟩, fun read =>
      ⟨levelInForce_none read, sessionsGoOnAt read⟩⟩
    have other : l ≠ unsetLevel := by
      rintro rfl
      exact limited read
    rw [levelInForce_none read, Option.filter_some_pos (by simpa using other), Option.getD_some]
  · cases environment with
    | none => simp [environmentLevel]
    | some text => simp [environmentLevel_eq_unset_iff]

/-- A level that is named in the environment is not in force if nothing else is given. -/
theorem not_honoursEnvironment_notSet : ¬ HonoursEnvironment (some "notset") := by
  intro honours
  have read : environmentLevel (some "notset") = .ok (some unsetLevel) :=
    environmentLevel_eq_unset_iff.mpr (.inl (by decide +kernel))
  have limited := (honours.given _ read).1
  rw [levelInForce_none read] at limited
  exact absurd (Except.ok.inj limited) (by decide)

end Log

end ProcessStubs
