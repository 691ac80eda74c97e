import FleetDesk.Proofs.Effects
import FleetDesk.Tool.Registry

/-!
# What comes of each tool

For arguments that a tool accepts: its result, the calls that it makes and the records that it
leaves, by the answers that it gets. Later modules take what they need of a tool from here and do not
open its handler.
-/

namespace FleetDesk

theorem Exec.perform_cases (w : World) (r : Request) :
    audits (r.perform w).2 = [record r (r.perform w).1] ∧
      ((∃ why, r.command? w = .error why ∧ calls (r.perform w).2 = [] ∧
          (r.perform w).1 = .sshError why) ∨
        ∃ c, r.command? w = .ok c ∧ calls (r.perform w).2 = [.run c] ∧
          (r.perform w).1 = .ofResult (w.run c)) := by
  rw [← audits_effects, ← calls_effects, Request.perform]
  cases r.command? w with
  | error why => exact ⟨by simp [audits], .inl ⟨why, rfl, by simp [calls], rfl⟩⟩
  | ok c => exact ⟨by simp [audits], .inr ⟨c, rfl, by simp [calls], rfl⟩⟩

theorem Exec.handle_eq {args : Json} {r : Request} (h : parse args = .ok r) (w : World) :
    handle w args = ⟨.ok (r.perform w).1.toJson, (r.perform w).2⟩ := by
  rw [handle, h]

theorem Exec.handle_cases {args : Json} {r : Request} (h : parse args = .ok r) (w : World) :
    ∃ response, (handle w args).result = .ok (Response.toJson response) ∧
      audits (handle w args).events = [record r response] ∧
      ((∃ why, r.command? w = .error why ∧ calls (handle w args).events = [] ∧
          response = .sshError why) ∨
        ∃ c, r.command? w = .ok c ∧ calls (handle w args).events = [.run c] ∧
          response = .ofResult (w.run c)) := by
  rw [handle_eq h]
  exact ⟨(r.perform w).1, rfl, perform_cases w r⟩

/-- A tool with one call, whose record is made of the same response as its result. -/
theorem Ping.handle_eq {args : Json} {ip : String} (h : parse args = .ok ip) (w : World) :
    (handle w args).result = .ok (Response.ofProbe (w.probe ip)).toJson ∧
      calls (handle w args).events = [.probe ip] ∧
      audits (handle w args).events = [record w ip (.ofProbe (w.probe ip))] := by
  rw [handle, h]
  refine ⟨rfl, ?_, ?_⟩
  · rw [← calls_effects]
    simp [perform, calls]
  · rw [← audits_effects]
    simp [perform, audits]

theorem Delete.handle_eq {args : Json} {ip : String} (h : parse args = .ok ip) (w : World) :
    (handle w args).result = .ok (Response.toJson ⟨ip, outcome (w.fleet (request ip))⟩) ∧
      calls (handle w args).events = [.request (request ip)] ∧
      audits (handle w args).events = [record ⟨ip, outcome (w.fleet (request ip))⟩] := by
  rw [handle, h]
  refine ⟨rfl, ?_, ?_⟩
  · rw [← calls_effects]
    simp [perform, calls]
  · rw [← audits_effects]
    simp [perform, audits]

/-- Why there is no list: the backend did not answer, or not with nodes that can be read. -/
inductive Listing.Fails (w : World) (filter : Node.Filter) : Fault → Prop
  | unanswered {f : Fault} (h : w.fleet (.get path) = .error f) : Fails w filter f
  | unreadable {answer : Json} {e : Node.ListingError} (h : w.fleet (.get path) = .ok answer)
      (he : Node.list answer filter = .error e) : Fails w filter e.toFault

theorem Listing.handle_cases {args : Json} {filter : Node.Filter} (h : parse args = .ok filter)
    (w : World) :
    calls (handle w args).events = [.request (.get path)] ∧
      ((∃ f, Fails w filter f ∧ (handle w args).result = .error f ∧
          audits (handle w args).events = []) ∨
        ∃ nodes, (∀ f, ¬ Fails w filter f) ∧
          (handle w args).result = .ok (.array (nodes.map Node.toJson)) ∧
          audits (handle w args).events = [record filter nodes]) := by
  cases ha : w.fleet (.get path) with
  | error f =>
    simp only [handle, h, perform, ha]
    exact ⟨rfl, .inl ⟨f, .unanswered ha, rfl, rfl⟩⟩
  | ok answer =>
    cases hn : Node.list answer filter with
    | error e =>
      simp only [handle, h, perform, ha, hn]
      exact ⟨rfl, .inl ⟨e.toFault, .unreadable ha hn, rfl, rfl⟩⟩
    | ok nodes =>
      simp only [handle, h, perform, ha, hn]
      refine ⟨rfl, .inr ⟨nodes, fun f hf => ?_, rfl, rfl⟩⟩
      cases hf with
      | unanswered h => rw [ha] at h; cases h
      | unreadable h he =>
        obtain rfl := Except.ok.inj (ha.symm.trans h)
        rw [hn] at he
        cases he

theorem Listing.Fails.unique {w : World} {filter : Node.Filter} {f g : Fault}
    (hf : Fails w filter f) (hg : Fails w filter g) : f = g := by
  cases hf <;> cases hg <;> simp_all

end FleetDesk
