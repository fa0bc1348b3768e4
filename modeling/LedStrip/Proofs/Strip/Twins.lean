import LedStrip.Proofs.Strip.Run

/-!
# Strips that cannot be told apart

Two strips on different backends are twins if they show the same and stay twins whatever is drawn,
and if their backends answer each call alike (`Strip.Twins`).  No moves tell twins apart
(`Strip.Twins.run`): what a move does to a strip itself does not depend on its backend.
-/

namespace LedStrip.Strip

variable {β γ : Type} [Backend β] [Backend γ] [Scripted β] [Scripted γ]

/-- A relation between strips that drawing and calls keep, and under which they answer alike. -/
structure Twins (Twin : Strip β → Strip γ → Prop) : Prop where
  face {s : Strip β} {t : Strip γ} : Twin s t → s.face = t.face
  /-- Both may be drawn on and told other settings, as long as no row gets longer or shorter. -/
  redrawn {s s' : Strip β} {t t' : Strip γ} : Twin s t → s'.face = t'.face →
    s'.backend = s.backend → t'.backend = t.backend →
    (∀ c, (s'.channels.get c).pixels.length = (s.channels.get c).pixels.length) → Twin s' t'
  render {s : Strip β} {t : Strip γ} : Twin s t →
    s.render.result = t.render.result ∧ Twin s.render.state t.render.state
  wait {s : Strip β} {t : Strip γ} : Twin s t →
    s.wait.result = t.wait.result ∧ Twin s.wait.state t.wait.state
  answerWith {s : Strip β} {t : Strip γ} (call : Driver.Call) (code : Int32) : Twin s t →
    Twin { s with backend := Scripted.answerWith call code s.backend }
      { t with backend := Scripted.answerWith call code t.backend }

namespace Twins

variable {Twin : Strip β → Strip γ → Prop} {s : Strip β} {t : Strip γ} (twins : Twins Twin)

include twins

/-- A request that calls neither backend changes both strips in the same way. -/
theorem quiet (twin : Twin s t) {q : Request} (quiet : q.call? = none) :
    (s.handle q).result = (t.handle q).result ∧ Twin (s.handle q).state (t.handle q).state := by
  have same : t.handle q = (s.handle q).lift fun r => r.withBackend t.backend := by
    rw [← handle_withBackend s t.backend quiet, ← face_eq_face_iff.1 (twins.face twin)]
  rw [same]
  exact ⟨rfl, twins.redrawn twin rfl (s.backend_handle quiet) rfl (s.length_handle q)⟩

/-- Every request returns the same on both strips. -/
theorem handle (twin : Twin s t) (q : Request) :
    (s.handle q).result = (t.handle q).result ∧ Twin (s.handle q).state (t.handle q).state := by
  rcases s.handle_cases q with ⟨call, render⟩ | ⟨call, wait⟩ | ⟨call, -⟩
  · rw [render, t.handle_of_render call]
    exact twins.render twin
  · rw [wait, t.handle_of_wait call]
    exact twins.wait twin
  · exact twins.quiet twin call

theorem perform (twin : Twin s t) (m : Move) :
    (s.perform m).result = (t.perform m).result ∧
      Twin (s.perform m).state (t.perform m).state := by
  cases m with
  | ask q =>
    obtain ⟨result, still⟩ := twins.handle twin q
    exact ⟨congrArg Reply.done result, still⟩
  | read q =>
    have same := answer_withBackend s t.backend q
    rw [← face_eq_face_iff.1 (twins.face twin)] at same
    exact ⟨same.symm, twin⟩
  | answer call code => exact ⟨rfl, twins.answerWith call code twin⟩

theorem run (twin : Twin s t) (moves : List Move) :
    (s.run moves).result = (t.run moves).result ∧
      Twin (s.run moves).state (t.run moves).state := by
  induction moves generalizing s t with
  | nil => exact ⟨rfl, twin⟩
  | cons m rest ih =>
    obtain ⟨first, twin'⟩ := twins.perform twin m
    obtain ⟨others, still⟩ := ih twin'
    rw [result_run_cons, result_run_cons, first, others]
    exact ⟨rfl, still⟩

end Twins

end LedStrip.Strip
