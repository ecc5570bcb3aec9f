import Clickpath.Proofs.Script.Lexis

/-! # Balanced brackets

A reader of brackets keeps the closing ones that it still waits for, the next one first. Balanced
code can stand anywhere without a change to what is waited for.
-/

namespace Clickpath.Script.Brackets

/-- The closing bracket that an opening one asks for. -/
def closing? (code : Nat) : Option Nat :=
  if code = '('.toNat then some ')'.toNat
  else if code = '['.toNat then some ']'.toNat
  else if code = '\x7b'.toNat then some '\x7d'.toNat
  else none

def isClosing (code : Nat) : Bool :=
  code == ')'.toNat || code == ']'.toNat || code == '\x7d'.toNat

/-- What is waited for behind one code. A closing bracket has to be the next one. -/
def step (awaited : List Nat) (code : Nat) : Option (List Nat) :=
  match closing? code with
  | some bracket => some (bracket :: awaited)
  | none =>
    if isClosing code then
      match awaited with
      | [] => none
      | bracket :: rest => if bracket = code then some rest else none
    else some awaited

/-- What is waited for behind a text. -/
def pending (awaited codes : List Nat) : Option (List Nat) := codes.foldlM step awaited

/-- Every bracket has its partner, and pairs do not cross. -/
def balanced (codes : List Nat) : Bool := pending [] codes == some []

theorem pending_append (awaited first second : List Nat) :
    pending awaited (first ++ second) =
      (pending awaited first).bind fun between => pending between second :=
  List.foldlM_append

/-- What a text does not get to makes no difference to it. -/
theorem step_extend {awaited after : List Nat} {code : Nat} (hstep : step awaited code = some after)
    (more : List Nat) : step (awaited ++ more) code = some (after ++ more) := by
  unfold step at hstep ⊢
  cases hclosing : closing? code with
  | some bracket =>
      rw [hclosing] at hstep
      cases hstep
      rfl
  | none =>
      rw [hclosing] at hstep
      cases hcode : isClosing code with
      | false =>
          rw [hcode] at hstep
          cases hstep
          rfl
      | true =>
          rw [hcode] at hstep
          cases awaited with
          | nil => cases hstep
          | cons bracket rest =>
              simp only [↓reduceIte] at hstep
              -- A bracket that is not the next one ends the reading, whatever is waited for behind.
              by_cases hsame : bracket = code
              · rw [if_pos hsame] at hstep
                cases hstep
                simp only [↓reduceIte, List.cons_append, if_pos hsame]
              · rw [if_neg hsame] at hstep
                cases hstep

/-- What is waited for further outside stays waited for. -/
theorem pending_extend {awaited after codes : List Nat}
    (hpending : pending awaited codes = some after) (more : List Nat) :
    pending (awaited ++ more) codes = some (after ++ more) := by
  induction codes generalizing awaited with
  | nil =>
      cases hpending
      rfl
  | cons code codes ih =>
      rw [pending, List.foldlM_cons] at hpending ⊢
      obtain ⟨between, hstep, hrest⟩ := Option.bind_eq_some_iff.mp hpending
      rw [step_extend hstep more]
      exact ih hrest

/-- Balanced text leaves what is waited for as it was. -/
theorem pending_of_balanced {codes : List Nat} (hcodes : balanced codes = true)
    (awaited : List Nat) : pending awaited codes = some awaited := by
  have hempty := beq_iff_eq.mp hcodes
  exact pending_extend hempty awaited

theorem balanced_append {first second : List Nat} (hfirst : balanced first = true)
    (hsecond : balanced second = true) : balanced (first ++ second) = true := by
  rw [balanced, pending_append, beq_iff_eq.mp hfirst, Option.bind_some]
  exact hsecond

/-- Text without brackets is balanced. -/
theorem balanced_of_forall {codes : List Nat}
    (hcodes : ∀ code ∈ codes, closing? code = none ∧ isClosing code = false) :
    balanced codes = true := by
  induction codes with
  | nil => rfl
  | cons code codes ih =>
      obtain ⟨hclosing, hcode⟩ := hcodes code List.mem_cons_self
      have hstep : step [] code = some [] := by
        rw [step, hclosing, hcode]
        rfl
      rw [balanced, pending, List.foldlM_cons, hstep]
      exact ih fun other hother => hcodes other (List.mem_cons_of_mem _ hother)

theorem pending_cons_quote (awaited codes : List Nat) :
    pending awaited (Dialect.quote :: codes) = pending awaited codes :=
  rfl

/-- Balanced text can stand between an opening and a closing part. -/
theorem balanced_between {opening inside ending awaited : List Nat}
    (hopening : pending [] opening = some awaited) (hinside : balanced inside = true)
    (hending : pending awaited ending = some []) :
    balanced (opening ++ inside ++ ending) = true := by
  rw [balanced, pending_append, pending_append, hopening, Option.bind_some,
    pending_of_balanced hinside, Option.bind_some, hending]
  rfl

end Clickpath.Script.Brackets
