import Clickpath.Proofs.Run.Stages
import Clickpath.Proofs.Session.Exchange

/-! # Demands of steps

A step that works on the page makes calls one after another and objects to some replies. Told as a
list of such demands, its performance is one recursion: it goes on until a call fails or a reply is
objected to, and a step fails just there.
-/

namespace Clickpath.Run

open Session

variable {σ : Type}

/-- A call, and the fault that a step raises for a reply. -/
structure Demand where
  call : Call
  objection : call.Reply → Option Fault

namespace Demand

def anyReply (call : Call) : Demand := ⟨call, fun _ => none⟩

/-- A count that must not be zero. -/
def someElement (index : Nat) (target : Selector) : Demand where
  call := .count target
  objection := fun (count : Int) =>
    if count = 0 then
      some ⟨.unresolved, "No element matches " ++ target.strategyName ++ " selector '" ++ target.raw
        ++ "'", some index⟩
    else none

/-- A text that must hold another. -/
def someText (index : Nat) (target : Selector) (expected : String) : Demand where
  call := .readText target
  objection := fun (found : String) =>
    if !Text.contains found expected then
      some ⟨.unexpectedText, "Assertion failed! Expected text \x22" ++ expected
        ++ "\x22 not found in selector \x22" ++ target.raw ++ "\x22.", some index⟩
    else none

/-- The fault that a step meets with this reply to its call. -/
def fault? (demand : Demand) : Except Fault demand.call.Reply → Option Fault
  | .ok reply => demand.objection reply
  | .error fault => some fault

end Demand

/-- What the step at a place demands of its page. A screenshot demands nothing. -/
def demands (index : Nat) : Action → List Demand
  | .navigate url => [.anyReply (.navigate url)]
  | .click target => [.someElement index target, .anyReply (.click target)]
  | .typeText target text => [.someElement index target, .anyReply (.typeText target text)]
  | .assertText target expected =>
      [.someElement index target, .someText index target expected]
  | .screenshot _ => []

/-- Makes the calls that are demanded, until one of them meets with a fault. -/
def meet (b : Browser σ) : List Demand → Act (Surroundings σ) Unit
  | [] => pure ()
  | demand :: rest => do
    match demand.objection (← ask b demand.call) with
    | some fault => throw fault
    | none => meet b rest

theorem meet_anyReply (b : Browser σ) (call : Call) (rest : List Demand) :
    meet b (.anyReply call :: rest) = (do let _ ← ask b call; meet b rest) :=
  rfl

theorem meet_someElement (b : Browser σ) (index : Nat) (target : Selector)
    (rest : List Demand) :
    meet b (.someElement index target :: rest) = (do resolve b index target; meet b rest) := by
  refine Eq.trans ?_ (bind_assoc (ask b (.count target)) _ _).symm
  apply bind_congr
  intro (count : Int)
  by_cases hcount : count = 0
  · simp [Demand.someElement, hcount]
  · simp [Demand.someElement, hcount]

theorem meet_someText (b : Browser σ) (index : Nat) (target : Selector) (expected : String)
    (rest : List Demand) :
    meet b (.someText index target expected :: rest) = (do
      expect index target expected (← ask b (.readText target))
      meet b rest) := by
  apply bind_congr
  intro (found : String)
  unfold expect
  cases hfound : Text.contains found expected
  · simp [Demand.someText, hfound]
  · simp [Demand.someText, hfound]

/-- A step other than a screenshot does what its demands say, and makes no file. -/
theorem perform_eq_meet (b : Browser σ) (directory : String) (index : Nat) (step : Step)
    (hkind : step.kind ≠ .screenshot) :
    perform b directory index step = (do meet b (demands index step.action); return none) := by
  unfold perform
  rcases step with ⟨name, action⟩
  cases action with
  | navigate url => simp only [demands, meet_anyReply, bind_assoc]; rfl
  | click target => simp only [demands, meet_anyReply, meet_someElement, bind_assoc]; rfl
  | typeText target text => simp only [demands, meet_anyReply, meet_someElement, bind_assoc]; rfl
  | assertText target expected =>
      simp only [demands, meet_someText, meet_someElement, bind_assoc]; rfl
  | screenshot file => exact absurd rfl hkind

/-! ## What comes of demands -/

/-- Exchanges that answer demands in order, up to the first that meets with a fault. -/
inductive Met : List Demand → List (Exchange Call.Reply) → Except Fault Unit → Prop
  | done : Met [] [] (.ok ())
  | refused {demand : Demand} {rest : List Demand} {reply : Except Fault demand.call.Reply}
      {fault : Fault} (hreply : demand.fault? reply = some fault) :
      Met (demand :: rest) [⟨demand.call, reply⟩] (.error fault)
  | next {demand : Demand} {rest : List Demand} {reply : Except Fault demand.call.Reply}
      {log : List (Exchange Call.Reply)} {result : Except Fault Unit}
      (hreply : demand.fault? reply = none) (hrest : Met rest log result) :
      Met (demand :: rest) (⟨demand.call, reply⟩ :: log) result

/-- Demands are met on the session, which is all that this changes. -/
theorem meet_met (b : Browser σ) (demands : List Demand) (s : Surroundings σ) :
    ∃ log, Met demands log (meet b demands s).1 ∧ Exchanged b log s (meet b demands s).2 ∧
      (meet b demands s).2.gallery = s.gallery := by
  induction demands generalizing s with
  | nil => exact ⟨[], .done, .silent rfl rfl, rfl⟩
  | cons demand rest ih =>
      have hask := Exchanged.ask b demand.call s
      have hgallery : (ask b demand.call s).2.gallery = s.gallery := rfl
      rw [meet, Act.bind_apply]
      rcases hreply : ask b demand.call s with ⟨reply, t⟩
      rw [hreply] at hask hgallery
      cases reply with
      | error fault => exact ⟨_, .refused rfl, hask, hgallery⟩
      | ok reply =>
          cases hobjection : demand.objection reply with
          | some fault =>
              simp only [hobjection]
              exact ⟨_, @Met.refused demand rest (.ok reply) _ hobjection, hask, hgallery⟩
          | none =>
              obtain ⟨log, hmet, hrest, hkept⟩ := ih t
              simp only [hobjection]
              exact ⟨_, @Met.next demand rest (.ok reply) _ _ hobjection hmet, hask.append hrest,
                hkept.trans hgallery⟩

namespace Met

variable {demands : List Demand} {log : List (Exchange Call.Reply)} {result : Except Fault Unit}

/-- The calls that are made are the first of those that are demanded. -/
theorem calls_prefix (hmet : Met demands log result) :
    log.map (·.call) <+: demands.map (·.call) := by
  induction hmet with
  | done => simp
  | refused _ => simp
  | next _ _ ih => simpa using ih

/-- If no demand meets with a fault, all the calls are made. -/
theorem calls_eq (hmet : Met demands log (.ok ())) :
    log.map (·.call) = demands.map (·.call) := by
  generalize hresult : Except.ok () = result at hmet
  induction hmet with
  | done => rfl
  | refused _ => cases hresult
  | next _ _ ih => simpa using ih hresult

/-- Where a property tells the replies that meet with a fault, it tells whether demands fail. -/
theorem error_iff {p : Exchange Call.Reply → Prop} (hmet : Met demands log result)
    (hfault : ∀ demand ∈ demands, ∀ reply,
      demand.fault? reply = none ↔ ¬p ⟨demand.call, reply⟩) :
    (∃ fault, result = .error fault) ↔ ∃ exchange ∈ log, p exchange := by
  induction hmet with
  | done => simp
  | @refused demand rest reply fault hreply =>
      have hbreaks := hfault demand List.mem_cons_self reply
      simp only [hreply, reduceCtorEq, false_iff, Classical.not_not] at hbreaks
      simpa using hbreaks
  | @next demand rest reply log result hreply hrest ih =>
      have hholds := (hfault demand List.mem_cons_self reply).mp hreply
      rw [ih fun other hmem => hfault other (List.mem_cons_of_mem _ hmem)]
      simp [hholds]

end Met

/-- The exchanges for which a step fails: a call that raised, a count of nothing, and a text without
the one that is expected. -/
inductive Breaks (action : Action) : Exchange Call.Reply → Prop
  | raised (call : Call) (fault : Fault) : Breaks action ⟨call, .error fault⟩
  | nothing (target : Selector) : Breaks action ⟨.count target, .ok (0 : Int)⟩
  | unexpected {target : Selector} {expected : String} (found : String)
      (haction : action = .assertText target expected)
      (hfound : Text.contains found expected = false) :
      Breaks action ⟨.readText target, .ok found⟩

/-- A count breaks a step exactly if nothing was counted. -/
theorem breaks_count_iff {action : Action} {target : Selector} {count : Int} :
    Breaks action ⟨.count target, .ok count⟩ ↔ count = 0 := by
  constructor
  · intro hbreaks
    cases hbreaks
    rfl
  · rintro rfl
    exact .nothing target

/-- A text breaks a step exactly if the one that is expected is not in it. -/
theorem breaks_readText_iff {target : Selector} {expected found : String} :
    Breaks (.assertText target expected) ⟨.readText target, .ok found⟩ ↔
      Text.contains found expected = false := by
  constructor
  · intro hbreaks
    cases hbreaks with
    | unexpected _ haction hfound =>
        cases haction
        exact hfound
  · exact .unexpected found rfl

theorem someElement_objection (index : Nat) (target : Selector) (count : Int) :
    (Demand.someElement index target).objection count = none ↔ count ≠ 0 := by
  simp [Demand.someElement]

theorem someText_objection (index : Nat) (target : Selector) (expected found : String) :
    (Demand.someText index target expected).objection found = none ↔
      Text.contains found expected = true := by
  simp [Demand.someText]

/-- A step meets with a fault in the exchanges that break it. -/
theorem fault?_eq_none_iff {index : Nat} {action : Action} {demand : Demand}
    (hmem : demand ∈ demands index action) (reply : Except Fault demand.call.Reply) :
    demand.fault? reply = none ↔ ¬Breaks action ⟨demand.call, reply⟩ := by
  cases reply with
  | error fault =>
      refine iff_of_false nofun ?_
      exact not_not_intro (.raised _ fault)
  | ok reply =>
      have helement (target : Selector) (count : Int) :
          (Demand.someElement index target).objection count = none ↔
            ¬Breaks action ⟨.count target, .ok count⟩ := by
        rw [someElement_objection, breaks_count_iff]
      cases action with
      | navigate url =>
          obtain rfl := List.mem_singleton.mp hmem
          exact iff_of_true rfl nofun
      | click target =>
          rw [demands, List.mem_cons, List.mem_singleton] at hmem
          rcases hmem with rfl | rfl
          · exact helement target reply
          · exact iff_of_true rfl nofun
      | typeText target text =>
          rw [demands, List.mem_cons, List.mem_singleton] at hmem
          rcases hmem with rfl | rfl
          · exact helement target reply
          · exact iff_of_true rfl nofun
      | assertText target expected =>
          rw [demands, List.mem_cons, List.mem_singleton] at hmem
          rcases hmem with rfl | rfl
          · exact helement target reply
          · have htext (found : String) :
                (Demand.someText index target expected).objection found = none ↔
                  ¬Breaks (.assertText target expected) ⟨.readText target, .ok found⟩ := by
              rw [someText_objection, breaks_readText_iff, Bool.not_eq_false]
            exact htext reply
      | screenshot file => cases hmem

/-- A demand on an element stands behind the demand that the element is there. -/
theorem guarded_someElement {index : Nat} {target : Selector} {demand : Demand}
    {log : List (Exchange Call.Reply)} {result : Except Fault Unit}
    (hcall : demand.call.worksOn? = some target)
    (hmet : Met [.someElement index target, demand] log result) : Guarded log := by
  cases hmet with
  | refused _ => exact .free rfl .nil
  | @next _ _ reply rest _ haccepted hrest =>
      cases reply with
      | error fault => cases haccepted
      | ok count =>
          have hcount := (someElement_objection index target count).mp haccepted
          cases hrest with
          | refused _ => exact .counted hcount hcall .nil
          | next _ hnone =>
              cases hnone
              exact .counted hcount hcall .nil

/-- What a step demands works on no element that was not counted before. -/
theorem Met.guarded {index : Nat} {action : Action} {log : List (Exchange Call.Reply)}
    {result : Except Fault Unit} (hmet : Met (demands index action) log result) :
    Guarded log := by
  cases action with
  | navigate url =>
      cases hmet with
      | refused _ => exact .free rfl .nil
      | next _ hnone =>
          cases hnone
          exact .free rfl .nil
  | click target => exact guarded_someElement rfl hmet
  | typeText target text => exact guarded_someElement rfl hmet
  | assertText target expected => exact guarded_someElement rfl hmet
  | screenshot file =>
      cases hmet
      exact .nil

end Clickpath.Run
