import SyntaxDump.CommandLine.Run
import SyntaxDump.Proofs.Result

/-!
# The steps of a run

A run makes its settings first. Then it either lists the formats, or reads a document, loads the
tree and writes it. A fault of any step ends the run, and it is all that the run tells.

## Main statements

- `Run.run_of_load_eq_ok`, `Run.run_of_load_eq_error`: a run with and without settings;
- `Run.stdout_eq_empty_of_exitCode_ne_zero`: a run that does not succeed prints nothing.
-/

namespace SyntaxDump

theorem Failure.exitCode_ne_zero (e : Failure) : e.exitCode ≠ 0 := by
  cases e with
  | overflow e => exact (by decide : (101 : UInt8) ≠ 0)
  | _ => exact (by decide : (1 : UInt8) ≠ 0)

namespace Outcome

/-- What a run leaves behind that was called rightly. -/
def ofResult : Except Failure String → Outcome
  | .ok text => .printed text
  | .error e => .failed e

end Outcome

namespace Run

variable {files : Files} {words : List String} {a : Arguments}

/-- What a run does once it has its settings. -/
def carryOut (files : Files) (a : Arguments) (s : Settings) : Except Failure String :=
  if a.listFormats then .ok (formatList (Registry.withOptions s.options))
  else (documentText files (Registry.withOptions s.options) s.format (a.path.getD "")).map
    fun text => Text.trimEnd text ++ "\n"

/-- The settings come before everything else. -/
theorem output_eq_bind (files : Files) (a : Arguments) :
    output files a = (Settings.load files a.layers).mapError .settings >>= carryOut files a := by
  rw [output]
  refine congrArg _ (funext fun s => ?_)
  rw [carryOut]
  dsimp only
  generalize documentText files (Registry.withOptions s.options) s.format (a.path.getD "") = text
  split
  · rfl
  · cases text <;> rfl

/-- A run that was called rightly. -/
theorem run_eq_ofResult (hread : Arguments.read words = .ok (.run a)) :
    run files words = .ofResult (output files a) := by
  rw [run, hread]
  cases h : output files a <;> simp [answer, h, Outcome.ofResult]

/-- A run goes on once it has settings. -/
theorem run_of_load_eq_ok (hread : Arguments.read words = .ok (.run a)) {s : Settings}
    (hload : Settings.load files a.layers = .ok s) :
    run files words = .ofResult (carryOut files a s) := by
  rw [run_eq_ofResult hread, output_eq_bind, hload]
  rfl

/-- A run without settings fails. -/
theorem run_of_load_eq_error (hread : Arguments.read words = .ok (.run a)) {e : SettingsError}
    (hload : Settings.load files a.layers = .error e) :
    run files words = .failed (.settings e) := by
  rw [run_eq_ofResult hread, output_eq_bind, hload]
  rfl

/-- Reading, loading and writing a document do not fail for the settings. -/
private theorem documentText_ne_settings (files : Files) (r : Registry) (format path : String)
    (e : SettingsError) : documentText files r format path ≠ .error (.settings e) := by
  intro h
  -- each of the four steps names its faults in its own way
  have hother {ε α : Type} {x : Except ε α} {f : ε → Failure} (hf : ∀ e', f e' ≠ .settings e) :
      x.mapError f ≠ .error (.settings e) := fun h => by
    obtain ⟨e', -, he⟩ := Except.exists_of_mapError_eq_error h
    exact hf e' he
  rcases Except.eq_error_or_of_bind_eq_error h with h | ⟨source, -, h⟩
  · exact hother nofun h
  rcases Except.eq_error_or_of_bind_eq_error h with h | ⟨tree, -, h⟩
  · exact hother nofun h
  rcases Except.eq_error_or_of_bind_eq_error h with h | ⟨result, -, h⟩
  · exact hother nofun h
  · exact hother nofun h

/-- A run that goes on fails for other reasons than its settings. -/
theorem carryOut_ne_settings (s : Settings) (e : SettingsError) :
    carryOut files a s ≠ .error (.settings e) := by
  rw [carryOut]
  split
  · nofun
  · have h := documentText_ne_settings files (Registry.withOptions s.options) s.format
      (a.path.getD "") e
    revert h
    cases documentText files (Registry.withOptions s.options) s.format (a.path.getD "") with
    | error f => exact id
    | ok text => nofun

/-- A run that does not succeed prints nothing. -/
theorem stdout_eq_empty_of_exitCode_ne_zero (files : Files) (words : List String)
    (h : (run files words).exitCode ≠ 0) : (run files words).stdout = "" := by
  rw [run] at h ⊢
  cases hread : Arguments.read words with
  | error e => rfl
  | ok request =>
    rw [hread] at h
    cases request with
    | help => exact absurd rfl h
    | version => exact absurd rfl h
    | run a =>
      simp only [answer] at h ⊢
      cases houtput : output files a with
      | error e => rfl
      | ok text =>
        rw [houtput] at h
        exact absurd rfl h

end Run

end SyntaxDump
