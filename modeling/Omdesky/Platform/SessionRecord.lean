/-
**The start time of a process (`omdesky-platform/src/session_record.rs`).**

* `parseStartTicks`: the twentieth word after the last closing parenthesis of `/proc/<pid>/stat`.
* `SupervisedProcess.observe`, `isStillRunning`: a process by its number and its start time.
* `StatLine`: a line of `/proc/<pid>/stat`, whatever the process calls itself.
* `start_time_law`: **the start time is read for every command name**, so observations of one number
  tell two processes apart by nothing else.
-/

import Omdesky.Text
import Omdesky.Text.Split

namespace Omdesky.Platform

/-! ### The code -/

/-- `START_TIME_FIELDS_AFTER_COMM`. -/
def startTimeFieldsAfterComm : Nat := 19

/-- `parse_start_ticks`. -/
def parseStartTicks (stat : String) : Option UInt64 := do
  let (_, afterComm) ← rsplitOnce ')' stat.toList
  let field ← (splitWhitespace afterComm)[startTimeFieldsAfterComm]?
  (parseUnsigned UInt64.size field).map UInt64.ofNat

/-- The text of `/proc/<pid>/stat` at some moment: `std::fs::read_to_string` finds none for a number
that no process has. -/
abbrev ProcStat := UInt32 → Option String

/-- `process_start_ticks`. -/
def processStartTicks (proc : ProcStat) (pid : UInt32) : Option UInt64 := do
  parseStartTicks (← proc pid)

/-- `SupervisedProcess`. -/
@[ext] structure SupervisedProcess where
  pid : UInt32
  startTicks : UInt64
  deriving DecidableEq, Repr

/-- `SupervisedProcess::observe`. -/
def SupervisedProcess.observe (proc : ProcStat) (pid : UInt32) : Option SupervisedProcess :=
  (processStartTicks proc pid).map fun startTicks => ⟨pid, startTicks⟩

/-- `SupervisedProcess::is_still_running`. -/
def SupervisedProcess.isStillRunning (process : SupervisedProcess) (proc : ProcStat) : Bool :=
  processStartTicks proc process.pid == some process.startTicks

/-! ### The lines of the kernel -/

/-- `pid (comm) fields`. -/
def statLine (pid : UInt32) (comm fields : String) : String :=
  toString pid.toNat ++ " (" ++ comm ++ ") " ++ fields

/-- The line of a process that started at this time, whatever its name. -/
def StatLine (pid : UInt32) (startTicks : UInt64) (stat : String) : Prop :=
  ∃ (comm fields : String) (words : List String),
    stat = statLine pid comm fields ∧ Words (words.map String.toList) fields.toList ∧
      ')' ∉ fields.toList ∧ words[19]? = some (toString startTicks.toNat)

theorem parseStartTicks_of_words {front back : String} {words : List (List Char)}
    (closed : ')' ∉ back.toList) (spelled : Words words back.toList) :
    parseStartTicks (front ++ ")" ++ back) =
      words[startTimeFieldsAfterComm]?.bind fun field =>
        (parseUnsigned UInt64.size field).map UInt64.ofNat := by
  have split : (front ++ ")" ++ back).toList = front.toList ++ ')' :: back.toList := by simp
  rw [parseStartTicks, split, rsplitOnce_append closed]
  simp only [Option.bind_eq_bind, Option.bind_some, splitWhitespace_of_words spelled]

theorem parseStartTicks_of_statLine {pid : UInt32} {startTicks : UInt64} {stat : String}
    (line : StatLine pid startTicks stat) : parseStartTicks stat = some startTicks := by
  obtain ⟨comm, fields, words, rfl, spelled, closed, field⟩ := line
  have ended : statLine pid comm fields =
      toString pid.toNat ++ " (" ++ comm ++ ")" ++ (" " ++ fields) := by
    have paren : ") " = ")" ++ " " := rfl
    rw [statLine, paren]
    simp only [String.append_assoc]
  have spaced : (" " ++ fields).toList = ' ' :: fields.toList := by simp
  have absent : ')' ∉ (" " ++ fields).toList := by
    rw [spaced]
    exact List.not_mem_cons_of_ne_of_not_mem (by decide) closed
  have found : (words.map String.toList)[startTimeFieldsAfterComm]? =
      some (Nat.toDigits 10 startTicks.toNat) := by
    rw [startTimeFieldsAfterComm, List.getElem?_map, field, Option.map_some,
      Nat.toString_eq_ofList_toDigits, String.toList_ofList]
  rw [ended, parseStartTicks_of_words absent (spaced ▸ spelled.indent rfl), found, Option.bind_some,
    parseUnsigned_toDigits startTicks.toNat_lt_size, Option.map_some, UInt64.ofNat_toNat]

theorem parseStartTicks_of_short {front back : String} {words : List (List Char)}
    (closed : ')' ∉ back.toList) (spelled : Words words back.toList) (short : words.length < 20) :
    parseStartTicks (front ++ ")" ++ back) = none := by
  have missing : words[startTimeFieldsAfterComm]? = none :=
    List.getElem?_eq_none (Nat.le_of_lt_succ short)
  rw [parseStartTicks_of_words closed spelled, missing, Option.bind_none]

/-! ### The law -/

/-- **The start time is read correctly for every command name.** -/
theorem start_time_law (pid : UInt32) :
    (∀ startTicks stat, StatLine pid startTicks stat → parseStartTicks stat = some startTicks) ∧
    (∀ front back words, ')' ∉ back.toList → Words words back.toList → words.length < 20 →
      parseStartTicks (front ++ ")" ++ back) = none) ∧
    ∀ (proc proc' : ProcStat) startTicks startTicks' stat stat', proc pid = some stat →
      proc' pid = some stat' → StatLine pid startTicks stat → StatLine pid startTicks' stat' →
      ∃ seen seen', SupervisedProcess.observe proc pid = some seen ∧
        SupervisedProcess.observe proc' pid = some seen' ∧
        (seen = seen' ↔ startTicks = startTicks') ∧
        (seen.isStillRunning proc' = true ↔ startTicks = startTicks') := by
  refine ⟨fun _ _ line => parseStartTicks_of_statLine line,
    fun _ _ _ closed spelled short => parseStartTicks_of_short closed spelled short, ?_⟩
  intro proc proc' startTicks startTicks' stat stat' read read' line line'
  have first : processStartTicks proc pid = some startTicks := by
    rw [processStartTicks, read]
    exact parseStartTicks_of_statLine line
  have second : processStartTicks proc' pid = some startTicks' := by
    rw [processStartTicks, read']
    exact parseStartTicks_of_statLine line'
  refine ⟨⟨pid, startTicks⟩, ⟨pid, startTicks'⟩, ?_, ?_, ?_, ?_⟩
  · rw [SupervisedProcess.observe, first, Option.map_some]
  · rw [SupervisedProcess.observe, second, Option.map_some]
  · simp
  · rw [SupervisedProcess.isStillRunning, second]
    exact beq_iff_eq.trans (Option.some_inj.trans eq_comm)

/-- A line with one space between two fields. -/
theorem statLine_spaced {startTicks : UInt64} {words : List String} (pid : UInt32) (comm : String)
    (plain : ∀ word ∈ words, word ≠ "" ∧ ∀ c ∈ word.toList, isWhitespace c = false ∧ c ≠ ')')
    (field : words[19]? = some (toString startTicks.toNat)) :
    StatLine pid startTicks (statLine pid comm (" ".intercalate words)) := by
  refine ⟨comm, _, words, rfl, words_spaced fun word member => ?_, fun inside => ?_, field⟩
  · obtain ⟨nonempty, solid⟩ := plain word member
    exact ⟨nonempty, fun c within => (solid c within).1⟩
  · have every : ∀ c ∈ (" ".intercalate words).toList, c ≠ ')' :=
      forall_mem_intercalate (List.forall_mem_singleton.mpr (by decide))
        fun word member c within => ((plain word member).2 c within).2
    exact every ')' inside rfl

/-- A line with nineteen zeros before the start time. -/
def recycledLine (comm startTime : String) : String :=
  statLine 4242 comm (" ".intercalate (List.replicate 19 "0" ++ [startTime]))

/-- A number that has been given to another process, which calls itself what reads like the fields
of the first one. -/
theorem start_time_law_recycled :
    parseStartTicks (recycledLine "moonlight) S (" "987") = some 987 ∧
    parseStartTicks ("4242 (moonlight" ++ ")" ++ " S 1") = none ∧
    ∃ seen, SupervisedProcess.observe (fun _ => some (recycledLine "moonlight) S (" "987")) 4242 =
        some seen ∧
      seen.isStillRunning (fun _ => some (recycledLine "0 0) 987" "988")) = false := by
  have plain {field : String} (filled : field ≠ "")
      (solid : field.toList.all (fun c => !isWhitespace c && c != ')') = true) :
      field ≠ "" ∧ ∀ c ∈ field.toList, isWhitespace c = false ∧ c ≠ ')' :=
    ⟨filled, fun c inside => by simpa using List.all_eq_true.mp solid c inside⟩
  have line (comm : String) {startTime : String} (filled : startTime ≠ "")
      (solid : startTime.toList.all (fun c => !isWhitespace c && c != ')') = true)
      {startTicks : UInt64} (digits : startTime = toString startTicks.toNat) :
      StatLine 4242 startTicks (recycledLine comm startTime) := by
    refine statLine_spaced 4242 comm (List.forall_mem_append.mpr
      ⟨fun word member => ?_, List.forall_mem_singleton.mpr (plain filled solid)⟩) (congrArg some digits)
    obtain rfl := List.eq_of_mem_replicate member
    exact plain (by decide) (by decide)
  have first : StatLine 4242 987 (recycledLine "moonlight) S (" "987") :=
    line _ (by decide) (by decide) (by decide)
  have second : StatLine 4242 988 (recycledLine "0 0) 987" "988") :=
    line _ (by decide) (by decide) (by decide)
  have short : Words [['S'], ['1']] " S 1".toList := by
    have fields := @words_spaced ["S", "1"] (List.forall_mem_cons.mpr
      ⟨⟨by decide, List.forall_mem_singleton.mpr rfl⟩,
        List.forall_mem_singleton.mpr ⟨by decide, List.forall_mem_singleton.mpr rfl⟩⟩)
    exact @Words.indent _ _ fields ' ' rfl
  obtain ⟨read, missing, observed⟩ := start_time_law 4242
  obtain ⟨seen, _, found, _, _, running⟩ :=
    observed (fun _ => some _) (fun _ => some _) 987 988 _ _ rfl rfl first second
  refine ⟨read _ _ first, missing _ _ _ (by decide) short (by decide), seen, found, ?_⟩
  exact Bool.eq_false_iff.mpr fun same => absurd (running.mp same) (by decide)

end Omdesky.Platform
