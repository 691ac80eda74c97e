import FleetDesk.Proofs.Effects
import FleetDesk.Proofs.Redaction.Secrecy
import FleetDesk.Tool.Exec

/-!
# Running a command reveals no secrets

Two worlds are alike for a request when the command that it runs gives outputs that differ in
secrets only. The request then leads to one response and to the same events, the audit record among
them. Output is redacted before it is cut, so a secret that the cut goes through is no exception.
-/

namespace FleetDesk.Exec

open Text (SecretEquiv SecretStep redact redact_eq_of_secretEquiv)

/-- Results of a command that differ in secrets only. -/
inductive ResultEquiv :
    Except Remote.Failure Remote.Output → Except Remote.Failure Remote.Output → Prop
  | failure (f : Remote.Failure) : ResultEquiv (.error f) (.error f)
  | output {o p : Remote.Output} (hcode : o.exitCode = p.exitCode)
      (hout : SecretEquiv o.stdout p.stdout) (herr : SecretEquiv o.stderr p.stderr) :
    ResultEquiv (.ok o) (.ok p)

/-- The same scripts can be read, and the command of `r` gives equivalent results. -/
structure Request.Alike (r : Request) (w v : World) : Prop where
  script : w.script = v.script
  home : w.home = v.home
  run : ∀ c, r.command? w = .ok c → ResultEquiv (w.run c) (v.run c)

theorem Report.ofOutput_congr {o p : Remote.Output} (hcode : o.exitCode = p.exitCode)
    (hout : SecretEquiv o.stdout p.stdout) (herr : SecretEquiv o.stderr p.stderr) :
    Report.ofOutput o = Report.ofOutput p := by
  simp only [Report.ofOutput, redact_eq_of_secretEquiv hout, redact_eq_of_secretEquiv herr, hcode]

theorem Response.ofOutput_congr {o p : Remote.Output} (hcode : o.exitCode = p.exitCode)
    (hout : SecretEquiv o.stdout p.stdout) (herr : SecretEquiv o.stderr p.stderr) :
    Response.ofOutput o = Response.ofOutput p := by
  have htime : o.timedOut = p.timedOut := by
    rw [Remote.Output.timedOut, Remote.Output.timedOut, hcode]
  rw [Response.ofOutput, Response.ofOutput, Report.ofOutput_congr hcode hout herr, htime]

theorem ResultEquiv.ofResult_eq {r s : Except Remote.Failure Remote.Output} (h : ResultEquiv r s) :
    Response.ofResult r = Response.ofResult s := by
  cases h with
  | failure f => rfl
  | output hcode hout herr => exact Response.ofOutput_congr hcode hout herr

theorem Request.Alike.command?_eq {r : Request} {w v : World} (h : r.Alike w v) :
    r.command? w = r.command? v := by
  simp only [Request.command?, h.script, h.home]

theorem perform_eq_of_alike {r : Request} {w v : World} (h : r.Alike w v) :
    r.perform w = r.perform v := by
  have hresult := fun c hc => (h.run c hc).ofResult_eq
  simp only [Request.perform, ← h.command?_eq]
  cases hc : r.command? w with
  | error why => rfl
  | ok c => simp only [hresult c hc]

/-- Neither the response nor the events of a request tell two alike worlds apart. -/
theorem secrets_not_revealed {r : Request} {w v : World} (h : r.Alike w v) :
    r.perform w = r.perform v ∧ ∀ args, parse args = .ok r → handle w args = handle v args := by
  refine ⟨perform_eq_of_alike h, fun args hr => ?_⟩
  simp only [handle, hr, perform_eq_of_alike h]

/-! ### A key at the cut -/

/-- Every command gives `o`, and nothing else can be reached. -/
def answering (o : Remote.Output) : World := { World.unreachable with run := fun _ => .ok o }

theorem alike_answering {o p : Remote.Output} (h : ResultEquiv (.ok o) (.ok p)) (r : Request) :
    r.Alike (answering o) (answering p) := ⟨rfl, rfl, fun _ _ => h⟩

def keyOutput (before key digest : List Char) : Remote.Output where
  stdout := String.ofList (before ++ "API_KEY".toList ++ '=' :: (key ++ ['\n']))
  stderr := String.ofList (digest ++ ['\n'])

theorem isValue_of_all {key : List Char} (hn : key ≠ []) (h : key.all Text.isNameChar) :
    Text.IsValue key :=
  ⟨hn, fun c hc => Text.not_isBlank_of_isNameChar (List.all_eq_true.1 h c hc)⟩

theorem resultEquiv_keyOutput (before : List Char) {k l g h : List Char} (hk : Text.IsValue k)
    (hl : Text.IsValue l) (hg : Text.IsDigest g) (hh : Text.IsDigest h) :
    ResultEquiv (.ok (keyOutput before k g)) (.ok (keyOutput before l h)) := by
  have hblank : Text.isBlank '\n' := by decide
  have hkey : ∀ v, Text.IsValue v → Text.Assignment "API_KEY".toList v ['\n'] :=
    fun v hv => ⟨List.all_eq_true.1 (by decide), by decide, hv, by simpa using hblank⟩
  refine .output rfl ?_ ?_ <;> simp only [SecretEquiv, keyOutput, String.toList_ofList]
  · exact .single (.value (hkey k hk) (hkey l hl))
  · have hb : ¬ Text.isHexDigit '\n' := Text.not_isHexDigit_of_isBlank hblank
    exact .single (.digest (a := []) (by simp) hg hh (by simpa using hb))

/-- The value of the key starts two characters before the cut. -/
theorem key_at_cut_not_revealed :
    let r : Request := { ip := "10.0.0.7", command := "env", limit := 60000, script := none }
    let before := List.replicate 9990 ' '
    let w := answering (keyOutput before "alpha".toList (List.replicate 64 'a'))
    let v := answering (keyOutput before "omega3".toList (List.replicate 64 'b'))
    r.Alike w v ∧ r.perform w = r.perform v := by
  intro r before w v
  have hdigest : ∀ c, Text.isHexDigit c → Text.IsDigest (List.replicate 64 c) :=
    fun c hc => ⟨by simp [hc], List.length_replicate⟩
  have halpha : Text.IsValue "alpha".toList := isValue_of_all (by decide) (by decide)
  have homega : Text.IsValue "omega3".toList := isValue_of_all (by decide) (by decide)
  have hresult := resultEquiv_keyOutput before halpha homega (hdigest 'a' (by decide))
    (hdigest 'b' (by decide))
  have h : r.Alike w v := alike_answering hresult r
  exact ⟨h, (secrets_not_revealed h).1⟩

end FleetDesk.Exec
