import Rendezvous.CommandLine.Run
import Rendezvous.Proofs.CoverageStream
import Rendezvous.Proofs.JsonSkipping

/-! What a run leaves on standard output. All that can fail does so before the first write, so a run
that fails has written nothing, and a report of coverage is written as a whole or not at all. What
it needs is a configuration, a readable value if a file is named, and a length for its chunks. The
log file stands aside from this: it is opened before all else, and ends the run if it cannot be. -/
namespace Rendezvous

namespace CommandLine

open Report.Coverage (whole emit_unlimited)

theorem Ending.exitCode_eq_zero {ending : Ending} : ending.exitCode = 0 ↔ ending = .done := by
  cases ending <;> simp [exitCode]

theorem Ending.exitCode_eq_one {ending : Ending} :
    ending.exitCode = 1 ↔ ∃ error, ending = .failed error := by
  cases ending <;> simp [exitCode]

/-- The coverage to report on: none if no file is named, else the one JSON value that the file's
UTF-8 text is. -/
inductive Supplied (files : Local.Files) : (input : Option String) → Option Json.Value → Prop
  | none : Supplied files none none
  | file (read : files.read path = .ok content) (decoded : Text.Utf8.decode? content = some text)
      (parsed : Json.Value.ofText text = .ok value) : Supplied files (some path) (some value)

/-- What a report of coverage is made from: a configuration that is accepted, the coverage, and a
length for its chunks that is not zero, given with the command or else configured. -/
structure Reportable (site : Site) (named : Option String) (files : Local.Files)
    (input : Option String) (chunkLength : Option UInt64) (payload : Option Json.Value)
    (length : UInt64) : Prop where
  configured : ∃ config, site.config named files = .ok config ∧
    length = chunkLength.getD config.coverage.chunkLength
  supplied : Supplied files input payload
  positive : length ≠ 0

namespace Site

variable {site : Site} {config : Config} {files : Local.Files}

theorem readText_eq_ok {path text : String} :
    files.readText path = .ok text ↔
      ∃ content, files.read path = .ok content ∧ Text.Utf8.decode? content = some text := by
  unfold Local.Files.readText
  cases files.read path with
  | error fault => simp
  | ok content => cases decoded : Text.Utf8.decode? content <;> simp [decoded]

theorem readCoverage_eq_ok {path : String} {value : Json.Value} :
    readCoverage files path = .ok value ↔
      ∃ text, files.readText path = .ok text ∧ Json.Value.ofText text = .ok value := by
  unfold readCoverage
  rw [bind_eq_ok]
  refine exists_congr fun text => and_congr_right fun _ => ?_
  cases Json.Value.ofText text <;>
    simp [throw, throwThe, MonadExceptOf.throw, pure, Except.pure]

theorem supplied_iff {input : Option String} {payload : Option Json.Value} :
    input.mapM (readCoverage files) = .ok payload ↔ Supplied files input payload := by
  cases input with
  | none =>
    constructor
    · rintro ⟨⟩
      exact .none
    · rintro ⟨⟩
      rfl
  | some path =>
    constructor
    · intro read
      obtain ⟨value, found, same⟩ := bind_eq_ok.mp read
      obtain rfl : some value = payload := Except.ok.inj same
      obtain ⟨text, given, parsed⟩ := readCoverage_eq_ok.mp found
      obtain ⟨content, read, decoded⟩ := readText_eq_ok.mp given
      exact .file read decoded parsed
    · rintro (_ | ⟨read, decoded, parsed⟩)
      exact bind_eq_ok.mpr ⟨_, readCoverage_eq_ok.mpr
        ⟨_, readText_eq_ok.mpr ⟨_, read, decoded⟩, parsed⟩, rfl⟩

theorem coverageReport_eq_ok {input : Option String} {chunkLength : Option UInt64}
    {payload : Option Json.Value} {length : UInt64} :
    coverageReport config input chunkLength files = .ok (payload, length) ↔
      Supplied files input payload ∧ length = chunkLength.getD config.coverage.chunkLength ∧
        length ≠ 0 := by
  unfold coverageReport
  rw [bind_eq_ok, ← supplied_iff]
  constructor
  · rintro ⟨found, read, given⟩
    by_cases zero : chunkLength.getD config.coverage.chunkLength = 0
    · simp [zero, bind, Except.bind, throw, throwThe, MonadExceptOf.throw] at given
    · simp only [zero, if_false, pure, Except.pure, bind, Except.bind] at given
      obtain ⟨rfl, rfl⟩ := Prod.mk.inj (Except.ok.inj given)
      exact ⟨read, rfl, zero⟩
  · rintro ⟨read, rfl, positive⟩
    exact ⟨payload, read, by simp [positive, pure, Except.pure]⟩

/-- A command that fails has printed nothing. -/
theorem runCommand_failed {command : Command} {after : Trace}
    (failed : site.runCommand config command { files } = (.error error, after)) :
    after.output.written = "" := by
  cases command with
  | coverage input chunkLength =>
    simp only [runCommand] at failed
    split at failed
    · rw [← (Prod.mk.inj failed).2]
      rfl
    · rename_i payload length _
      obtain ⟨count, sink, emitted, _⟩ := emit_unlimited payload length _ 0 []
      rw [emitted] at failed
      simp [Except.map] at failed
  | _ =>
    simp only [runCommand, runBootstrap] at failed
    split at failed
    · rw [← (Prod.mk.inj failed).2]
      rfl
    · simp at failed

theorem runCommand_coverage (site : Site) {input : Option String} {chunkLength : Option UInt64}
    {payload : Option Json.Value} {length : UInt64}
    (report : coverageReport config input chunkLength files = .ok (payload, length)) :
    ∃ after, site.runCommand config (.coverage input chunkLength) { files } = (.ok (), after) ∧
      after.output.written = whole payload length := by
  obtain ⟨count, sink, emitted, written⟩ := emit_unlimited payload length _ 0 []
  refine ⟨{ files, output := sink }, ?_, ?_⟩
  · simp only [runCommand, report]
    rw [emitted]
    rfl
  · rw [written]
    exact String.empty_append

/-- The files that a run works on: with its log among them, if it is to have one. -/
def opened (site : Site) (invocation : Invocation) : Except Local.PathFault Local.Files :=
  if invocation.logFile then site.openLog else .ok site.files

theorem carryOut_eq (site : Site) (invocation : Invocation) :
    site.carryOut invocation =
      match site.opened invocation with
      | .error _ => ⟨.crashed, { files := site.files }⟩
      | .ok files =>
        match site.config invocation.config files with
        | .error error => ⟨.failed error, { files }⟩
        | .ok config =>
          match site.runCommand config invocation.command { files } with
          | (.ok (), trace) => ⟨.done, trace⟩
          | (.error error, trace) => ⟨.failed error, trace⟩ := rfl

theorem carryOut_closed {invocation : Invocation} (closed : site.opened invocation = .error fault) :
    site.carryOut invocation = ⟨.crashed, { files := site.files }⟩ := by
  rw [carryOut_eq, closed]

theorem carryOut_opened {invocation : Invocation} (opened : site.opened invocation = .ok files) :
    site.carryOut invocation =
      match site.config invocation.config files with
      | .error error => ⟨.failed error, { files }⟩
      | .ok config =>
        match site.runCommand config invocation.command { files } with
        | (.ok (), trace) => ⟨.done, trace⟩
        | (.error error, trace) => ⟨.failed error, trace⟩ := by
  rw [carryOut_eq, opened]

theorem carryOut_failed {invocation : Invocation}
    (failed : (site.carryOut invocation).ending = .failed error) :
    (site.carryOut invocation).output = "" := by
  cases opened : site.opened invocation with
  | error fault =>
    rw [carryOut_closed opened]
    rfl
  | ok files =>
    rw [carryOut_opened opened] at failed ⊢
    split
    · rfl
    · split
      · simp_all
      · rename_i ended
        exact runCommand_failed ended

/-- A report is the end of a run just if there is all that it needs. -/
theorem carryOut_coverage {invocation : Invocation} {input : Option String}
    {chunkLength : Option UInt64} (opened : site.opened invocation = .ok files)
    (command : invocation.command = .coverage input chunkLength) :
    ((site.carryOut invocation).ending = .done ↔ ∃ payload length,
      Reportable site invocation.config files input chunkLength payload length) ∧
    ∀ payload length, Reportable site invocation.config files input chunkLength payload length →
      (site.carryOut invocation).output = whole payload length := by
  have reported {payload : Option Json.Value} {length : UInt64}
      (able : Reportable site invocation.config files input chunkLength payload length) :
      (site.carryOut invocation).ending = .done ∧
        (site.carryOut invocation).output = whole payload length := by
    obtain ⟨⟨config, accepted, inForce⟩, supplied, positive⟩ := able
    have report := coverageReport_eq_ok.mpr ⟨supplied, inForce, positive⟩
    obtain ⟨after, ran, written⟩ := runCommand_coverage site report
    rw [carryOut_opened opened, accepted, command]
    simpa only [ran, Outcome.output, true_and] using written
  refine ⟨⟨?_, fun ⟨_, _, able⟩ => (reported able).1⟩, fun _ _ able => (reported able).2⟩
  intro done
  rw [carryOut_opened opened, command] at done
  cases accepted : site.config invocation.config files with
  | error error => simp [accepted] at done
  | ok config =>
    cases report : coverageReport config input chunkLength files with
    | error error => simp [accepted, runCommand, report] at done
    | ok made =>
      obtain ⟨payload, length⟩ := made
      obtain ⟨supplied, inForce, positive⟩ := coverageReport_eq_ok.mp report
      exact ⟨payload, length, ⟨config, accepted, inForce⟩, supplied, positive⟩

/-- Standard output is written as a whole or not at all. A run that ends with status 1 has written
nothing. If the log file, as far as one is asked for, could be opened, a coverage command ends with
status 0 just if there is all that its report needs, and has then written the whole report; if it
could not, the run ends with status 101 whatever the command, and has written nothing. -/
theorem all_or_nothing (site : Site) (arguments : List String) :
    let outcome := site.run arguments
    (outcome.ending.exitCode = 1 → outcome.output = "") ∧
    ∀ invocation, Invocation.ofArguments arguments = .ok invocation →
      (∀ fault, site.opened invocation = .error fault →
        outcome.ending.exitCode = 101 ∧ outcome.output = "") ∧
      ∀ files, site.opened invocation = .ok files →
        ∀ input chunkLength, invocation.command = .coverage input chunkLength →
          (outcome.ending.exitCode = 0 ↔ ∃ payload length,
            Reportable site invocation.config files input chunkLength payload length) ∧
          ∀ payload length,
            Reportable site invocation.config files input chunkLength payload length →
              outcome.output = whole payload length := by
  intro outcome
  constructor
  · intro status
    obtain ⟨error, failed⟩ := Ending.exitCode_eq_one.mp status
    cases parsed : Invocation.ofArguments arguments with
    | ok invocation =>
      simp only [outcome, run, parsed] at failed ⊢
      exact carryOut_failed failed
    | error stop => cases stop <;> simp [outcome, run, parsed] at failed
  · intro invocation parsed
    have ran : outcome = site.carryOut invocation := by simp only [outcome, run, parsed]
    rw [ran]
    constructor
    · intro fault closed
      rw [carryOut_closed closed]
      constructor <;> rfl
    · intro files opened input chunkLength command
      rw [Ending.exitCode_eq_zero]
      exact carryOut_coverage opened command

/-- A directory has the place of the log file. -/
def logTaken : Site where
  homes := { home := "/home" }
  files := ⟨[(["/", "home", ".local", "share", "testkit", "logs", "testkit.log"], .directory)]⟩
  environ := []
  identity := ⟨1, 2⟩
  shell := none

/-- There is all that a report needs, and the run ends with another status than 0. -/
theorem logTaken_crashes :
    Invocation.ofArguments ["--log-file", "coverage"] = .ok ⟨none, true, .coverage none none⟩ ∧
    ¬ ((logTaken.run ["--log-file", "coverage"]).ending.exitCode = 0 ↔ ∃ payload length,
      Reportable logTaken none logTaken.files none none payload length) := by
  have crashed : (logTaken.run ["--log-file", "coverage"]).ending.exitCode = 101 := by
    decide +kernel
  have able : Reportable logTaken none logTaken.files none none none 500 :=
    ⟨⟨{}, rfl, rfl⟩, .none, by decide⟩
  refine ⟨rfl, fun claimed => ?_⟩
  have done := claimed.mpr ⟨none, 500, able⟩
  simp [crashed] at done

end Site
end CommandLine
end Rendezvous
