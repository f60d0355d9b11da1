import Mathlib.Data.List.ReduceOption
import SparqlAlgebra.Plan.Pattern
import SparqlAlgebra.Proofs.Expression.Draws

/-!
# The meaning of expressions

The value of an expression is defined here by recursion over its syntax: each test for solutions has the truth value of
its own pattern, all calls for the current time have one value, and functions are looked up where they are called. No
numbers are given. Compilation fails exactly if some function cannot be called with its number of arguments, and a
compiled expression has the value of its source if the answers that it reads stand in the order of the tests.
-/

namespace SparqlAlgebra

namespace FunctionName

/-- A function can be called with so many arguments: a built-in one accepts them, or else a registered one does. -/
def Accepted (registry : Registry) (f : FunctionName) (count : Nat) : Prop :=
  match f.builtin? with
  | some b => b.accepts count = true
  | none => ∃ i g, f = .iri i ∧ registry.lookup i = some g ∧ g.accepts count = true

end FunctionName

namespace Row

/-- The answers of a row from a number on are those to the tests of some patterns. -/
def AnswersFrom (holds : Pattern → Bool) (r : Row) (n : Nat) (ps : List Pattern) : Prop :=
  ∀ i p, ps[i]? = some p → r.answers[n + i]? = some (holds p)

variable {holds : Pattern → Bool} {r : Row} {n : Nat} {ps qs : List Pattern}

/-- The tests that come first have the first numbers. -/
theorem AnswersFrom.left (h : r.AnswersFrom holds n (ps ++ qs)) : r.AnswersFrom holds n ps := by
  intro i p hi
  obtain ⟨hlt, -⟩ := List.getElem?_eq_some_iff.1 hi
  exact h i p (by rw [List.getElem?_append_left hlt, hi])

/-- The tests that come later have later numbers. -/
theorem AnswersFrom.right (h : r.AnswersFrom holds n (ps ++ qs)) : r.AnswersFrom holds (n + ps.length) qs := by
  intro i p hi
  rw [Nat.add_assoc]
  refine h (ps.length + i) p ?_
  rw [List.getElem?_append_right (Nat.le_add_right ..), Nat.add_sub_cancel_left, hi]

/-- If the answers are those of the patterns, they stand in their order. -/
theorem answersFrom_map (s : Solution) (seed : Nat) :
    Row.AnswersFrom holds ⟨s, ps.map holds, seed⟩ 0 ps := by
  intro i p hi
  rw [Nat.zero_add, List.getElem?_map, hi, Option.map_some]

end Row

namespace Expression

mutual

/-- The patterns whose existence an expression tests, from left to right. -/
def patterns : Expression → List Pattern
  | .constant _ | .var _ | .isBound _ => []
  | .or a b | .and a b | .equal a b | .sameTerm a b | .compare _ a b | .arithmetic _ a b => a.patterns ++ b.patterns
  | .not a | .sign _ a => a.patterns
  | .member a es => a.patterns ++ patternsOfAll es
  | .hasSolution p => [p]
  | .choose a b d => a.patterns ++ b.patterns ++ d.patterns
  | .coalesce es | .call _ es => patternsOfAll es

/-- The patterns whose existence some expressions test. -/
def patternsOfAll : List Expression → List Pattern
  | [] => []
  | e :: es => e.patterns ++ patternsOfAll es

end

mutual

/-- The functions that an expression calls outside of patterns, each with its number of arguments. -/
def calls : Expression → List (FunctionName × Nat)
  | .constant _ | .var _ | .hasSolution _ | .isBound _ => []
  | .or a b | .and a b | .equal a b | .sameTerm a b | .compare _ a b | .arithmetic _ a b => a.calls ++ b.calls
  | .not a | .sign _ a => a.calls
  | .member a es => a.calls ++ callsOfAll es
  | .choose a b d => a.calls ++ b.calls ++ d.calls
  | .coalesce es => callsOfAll es
  | .call f es => (f, es.length) :: callsOfAll es

/-- The functions that some expressions call. -/
def callsOfAll : List Expression → List (FunctionName × Nat)
  | [] => []
  | e :: es => e.calls ++ callsOfAll es

end

/-- Every function that is called can be called. -/
def CallsAccepted (registry : Registry) (calls : List (FunctionName × Nat)) : Prop :=
  ∀ x ∈ calls, x.1.Accepted registry x.2

/-! ## Direct evaluation -/

/-- True if one of two truth values is, false if both are, and otherwise an error. -/
def either (a b : Option Bool) : Option Bool :=
  if a = some true ∨ b = some true then some true
  else if a = some false ∧ b = some false then some false
  else none

/-- False if one of two truth values is, true if both are, and otherwise an error. -/
def both (a b : Option Bool) : Option Bool :=
  if a = some false ∨ b = some false then some false
  else if a = some true ∧ b = some true then some true
  else none

/-- Whether a term is equal to one of several values: the disjunction of the equalities. -/
def oneOf (x : Term) : List (Option Term) → Option Bool
  | [] => some false
  | y :: ys => either (y.bind x.equal?) (oneOf x ys)

/-- The value of a function for its arguments. -/
def applied (c : Compiler) (f : FunctionName) (args : List Term) : Option Term :=
  match f.builtin? with
  | some b => if b = .now then some c.now else b.call args
  | none =>
    match f with
    | .iri i => (c.registry.lookup i).bind fun g => (g.call args).bind Value.first?
    | .keyword _ => none

mutual

/-- The value of an expression for a solution, if it is known which patterns have solutions. -/
def meaning (c : Compiler) (holds : Pattern → Bool) (s : Solution) : Expression → Option Term
  | .constant t => some t
  | .var v => s.get? v
  | .or a b =>
    (either ((a.meaning c holds s).bind Term.truth?) ((b.meaning c holds s).bind Term.truth?)).map .ofBool
  | .and a b =>
    (both ((a.meaning c holds s).bind Term.truth?) ((b.meaning c holds s).bind Term.truth?)).map .ofBool
  | .not a => do return .ofBool (! (← (← a.meaning c holds s).truth?))
  | .equal a b => do return .ofBool (← (← a.meaning c holds s).equal? (← b.meaning c holds s))
  | .sameTerm a b => do return .ofBool ((← a.meaning c holds s) == (← b.meaning c holds s))
  | .compare op a b => do return .ofBool (op.accepts (← (← a.meaning c holds s).compare? (← b.meaning c holds s)))
  | .member a es => do return .ofBool (← oneOf (← a.meaning c holds s) (meanings c holds s es))
  | .arithmetic op a b => do op.apply (← a.meaning c holds s) (← b.meaning c holds s)
  | .sign op a => do op.apply (← a.meaning c holds s)
  | .hasSolution p => some (.ofBool (holds p))
  | .isBound v => some (.ofBool (s.get? v).isSome)
  | .choose a b d => do if ← (← a.meaning c holds s).truth? then b.meaning c holds s else d.meaning c holds s
  | .coalesce es => (meanings c holds s es).reduceOption.head?
  | .call f es => do applied c f (← (meanings c holds s es).mapM id)

/-- The values of several expressions. -/
def meanings (c : Compiler) (holds : Pattern → Bool) (s : Solution) : List Expression → List (Option Term)
  | [] => []
  | e :: es => e.meaning c holds s :: meanings c holds s es

end

/-- The disjunction that the meaning takes is the one that the evaluation computes. -/
theorem either_eq_or (a b : Option Bool) : either a b = Truth.or a b := by
  rcases a with _ | _ | _ <;> rcases b with _ | _ | _ <;> rfl

/-- The conjunction that the meaning takes is the one that the evaluation computes. -/
theorem both_eq_and (a b : Option Bool) : both a b = Truth.and a b := by
  rcases a with _ | _ | _ <;> rcases b with _ | _ | _ <;> rfl

/-- Errors are remembered while the list is searched, which makes no difference. -/
theorem oneOf_eq_any (x : Term) (ys : List (Option Term)) :
    oneOf x ys = Truth.any (ys.map fun y => y.bind x.equal?) := by
  induction ys with
  | nil => rfl
  | cons y ys ih =>
    rw [oneOf, ih, List.map_cons]
    rcases y.bind x.equal? with _ | _ | _ <;> rcases hr : Truth.any (ys.map fun y => y.bind x.equal?) with _ | _ | _ <;>
      simp [either, Truth.any, hr]

/-! ## What is called -/

variable {c : Compiler} {f : FunctionName} {count : Nat}

/-- What a callee tells of the name that was resolved to it. -/
def Callee.StandsFor (c : Compiler) (f : FunctionName) (count : Nat) : Callee → Prop
  | .constant t => count = 0 ∧ t = c.now ∧ f.builtin? = some .now
  | .draw d => count = 0 ∧ ∃ b, f.builtin? = some b ∧ b.draw? = some d
  | .builtin b => f.builtin? = some b ∧ b ≠ .now
  | .custom g => f.builtin? = none ∧ ∃ i, f = .iri i ∧ c.registry.lookup i = some g

/-- The name of a built-in function is resolved to its value, to a draw or to the function. -/
theorem standsFor_of_builtin {b : Builtin} {callee : Callee} (hb : f.builtin? = some b)
    (h : resolve c f count = .ok callee) : b.accepts count = true ∧ callee.StandsFor c f count := by
  unfold resolve at h
  simp only [hb] at h
  by_cases ha : b.accepts count = true
  · refine ⟨ha, ?_⟩
    rw [ha, Bool.not_true, if_neg Bool.false_ne_true] at h
    by_cases hnow : b = .now
    · subst hnow
      rw [if_pos rfl] at h
      cases h
      exact ⟨beq_iff_eq.1 ha, rfl, hb⟩
    · rw [if_neg hnow] at h
      cases hd : b.draw? with
      | none =>
        rw [hd] at h
        cases h
        exact ⟨hb, hnow⟩
      | some d =>
        rw [hd] at h
        dsimp only at h
        split at h
        · rename_i hcount
          cases h
          exact ⟨hcount, b, hb, hd⟩
        · cases h
          exact ⟨hb, hnow⟩
  · rw [Bool.not_eq_true] at ha
    rw [ha] at h
    cases h

/-- Any other name is resolved to a function that is registered under it and accepts the arguments. -/
theorem standsFor_of_registered {callee : Callee} (hb : f.builtin? = none) (h : resolve c f count = .ok callee) :
    (∃ i g, f = .iri i ∧ c.registry.lookup i = some g ∧ g.accepts count = true) ∧ callee.StandsFor c f count := by
  unfold resolve at h
  cases f with
  | keyword b => cases hb
  | iri i =>
    simp only [hb] at h
    cases hg : c.registry.lookup i with
    | none =>
      rw [hg] at h
      cases h
    | some g =>
      rw [hg] at h
      dsimp only at h
      split at h
      · rename_i ha
        cases h
        exact ⟨⟨i, g, rfl, hg, ha⟩, hb, i, rfl, hg⟩
      · cases h

/-- What a name is resolved to can be called, and stands for it. -/
theorem resolve_eq_ok {callee : Callee} (h : resolve c f count = .ok callee) :
    f.Accepted c.registry count ∧ callee.StandsFor c f count := by
  unfold FunctionName.Accepted
  cases hb : f.builtin? with
  | some b => exact standsFor_of_builtin hb h
  | none => exact standsFor_of_registered hb h

/-- A name that can be called is resolved. -/
theorem exists_resolve (h : f.Accepted c.registry count) : ∃ callee, resolve c f count = .ok callee := by
  unfold FunctionName.Accepted at h
  unfold resolve
  cases hb : f.builtin? with
  | some b =>
    rw [hb] at h
    dsimp only at h ⊢
    rw [h, Bool.not_true, if_neg Bool.false_ne_true]
    repeat' split
    all_goals exact ⟨_, rfl⟩
  | none =>
    rw [hb] at h
    obtain ⟨i, g, rfl, hg, ha⟩ := h
    dsimp only
    rw [hg]
    exact ⟨.custom g, if_pos ha⟩

/-- The clock is read once, when the expression is compiled. -/
theorem applied_now (h : f.builtin? = some .now) (args : List Term) : applied c f args = some c.now := by
  simp only [applied, h, if_true]

/-- Every other built-in function is called with its arguments. -/
theorem applied_builtin {b : Builtin} (h : f.builtin? = some b) (hnow : b ≠ .now) : applied c f = b.call := by
  funext args
  simp only [applied, h, if_neg hnow]

/-- Of the values of a registered function the first one is taken. -/
theorem applied_custom {i : Iri} {g : CustomFunction} (h : (FunctionName.iri i).builtin? = none)
    (hg : c.registry.lookup i = some g) :
    applied c (.iri i) = fun args => (g.call args).bind Value.first? := by
  funext args
  simp only [applied, h, hg, Option.bind_some]

/-- A call that draws a value is not steady. -/
theorem not_isSteady_of_draw? {b : Builtin} {d : Draw} (hb : f.builtin? = some b) (hd : b.draw? = some d) :
    ¬ (Expression.call f []).isSteady = true := by
  have hv : b.isVolatile = true := by
    rw [← b.isSome_draw?, hd]
    rfl
  simp [isSteady, hb, hv]

/-! ## Compilation -/

/-- A compilation succeeds, whatever the numbers given before, exactly under a condition. -/
def Compilation.SucceedsIff {α : Type} (p : Prop) (x : Compilation α) : Prop :=
  ∀ n, (∃ a m, x.run n = .ok (a, m)) ↔ p

/-- A compilation numbers the tests of some patterns, and its result has a property if the row answers them. -/
def Compilation.Numbers {α : Type} (holds : Pattern → Bool) (r : Row) (ps : List Pattern) (Q : α → Prop)
    (x : Compilation α) : Prop :=
  ∀ n a m, x.run n = .ok (a, m) → m.tests = n.tests + ps.length ∧ (r.AnswersFrom holds n.tests ps → Q a)

namespace Compilation

variable {α β γ : Type} {p q : Prop} {x : Compilation α} {y : Compilation β} {f : α → Compilation β} {a : α}
  {holds : Pattern → Bool} {r : Row} {ps qs : List Pattern} {Q : α → Prop} {R : β → Prop} {S : γ → Prop}

/-- Two steps succeed if both do one after the other. -/
theorem run_bind_eq_ok_iff {b : β} {n m : Numbering} :
    (x >>= f).run n = .ok (b, m) ↔ ∃ a k, x.run n = .ok (a, k) ∧ (f a).run k = .ok (b, m) := by
  rw [StateT.run_bind]
  cases x.run n with
  | error e =>
    refine ⟨fun h => (by cases h), ?_⟩
    rintro ⟨a, k, h, -⟩
    cases h
  | ok y =>
    refine ⟨fun h => ⟨y.1, y.2, rfl, h⟩, ?_⟩
    rintro ⟨a, k, ⟨⟩, h⟩
    exact h

/-- Nothing can fail where there is nothing to do. -/
theorem SucceedsIff.pure : SucceedsIff True (Pure.pure a : Compilation α) :=
  fun n => ⟨fun _ => trivial, fun _ => ⟨a, n, rfl⟩⟩

/-- Numbering a test cannot fail. -/
theorem SucceedsIff.nextTest : SucceedsIff True Expression.nextTest := fun _ => ⟨fun _ => trivial, fun _ => ⟨_, _, rfl⟩⟩

/-- Numbering a draw cannot fail. -/
theorem SucceedsIff.nextDraw : SucceedsIff True Expression.nextDraw := fun _ => ⟨fun _ => trivial, fun _ => ⟨_, _, rfl⟩⟩

/-- Two steps succeed under both conditions if the second one does not depend on the result of the first. -/
theorem SucceedsIff.bind (hx : SucceedsIff p x) (hf : ∀ a, SucceedsIff q (f a)) : SucceedsIff (p ∧ q) (x >>= f) := by
  intro n
  constructor
  · rintro ⟨b, m, h⟩
    obtain ⟨a, k, ha, hb⟩ := run_bind_eq_ok_iff.1 h
    exact ⟨(hx n).1 ⟨a, k, ha⟩, (hf a k).1 ⟨b, m, hb⟩⟩
  · rintro ⟨hp, hq⟩
    obtain ⟨a, k, ha⟩ := (hx n).2 hp
    obtain ⟨b, m, hb⟩ := (hf a k).2 hq
    exact ⟨b, m, run_bind_eq_ok_iff.2 ⟨a, k, ha, hb⟩⟩

/-- What is done with the result cannot fail. -/
theorem SucceedsIff.map {op : α → β} (hx : SucceedsIff p x) : SucceedsIff p (do return op (← x)) := by
  have h := hx.bind fun a => SucceedsIff.pure (a := op a)
  rwa [and_true] at h

/-- An operator succeeds if both operands do. -/
theorem SucceedsIff.pair {op : α → β → γ} (hx : SucceedsIff p x) (hy : SucceedsIff q y) :
    SucceedsIff (p ∧ q) (do return op (← x) (← y)) :=
  hx.bind fun _ => hy.map

/-- No test is numbered for a value that is there. -/
theorem Numbers.pure (h : Q a) : Numbers holds r [] Q (Pure.pure a : Compilation α) := by
  rintro n b m ⟨⟩
  exact ⟨rfl, fun _ => h⟩

/-- The tests of the second part are numbered after those of the first part. -/
theorem Numbers.bind (hx : Numbers holds r ps Q x) (hf : ∀ a, Numbers holds r qs (fun b => Q a → R b) (f a)) :
    Numbers holds r (ps ++ qs) R (x >>= f) := by
  intro n b m h
  obtain ⟨a, k, ha, hb⟩ := run_bind_eq_ok_iff.1 h
  obtain ⟨hk, hQ⟩ := hx n a k ha
  obtain ⟨hm, hR⟩ := hf a k b m hb
  refine ⟨by rw [hm, hk, List.length_append, Nat.add_assoc], fun hanswers => ?_⟩
  rw [hk] at hR
  exact hR hanswers.right (hQ hanswers.left)

/-- What is done with the result numbers nothing. -/
theorem Numbers.map {op : α → β} (hx : Numbers holds r ps Q x) (hop : ∀ a, Q a → R (op a)) :
    Numbers holds r ps R (do return op (← x)) := by
  have h := hx.bind fun a => Numbers.pure (Q := fun b => Q a → R b) (hop a)
  rwa [List.append_nil] at h

/-- The tests of the second operand are numbered after those of the first. -/
theorem Numbers.pair {op : α → β → γ} (hx : Numbers holds r ps Q x) (hy : Numbers holds r qs R y)
    (hop : ∀ a b, Q a → R b → S (op a b)) : Numbers holds r (ps ++ qs) S (do return op (← x) (← y)) :=
  hx.bind fun a => hy.map fun b hb ha => hop a b ha hb

/-- A test is answered by the row. -/
theorem Numbers.nextTest {pattern : Pattern} :
    Numbers holds r [pattern] (fun i => r.answers[i]? = some (holds pattern)) Expression.nextTest := by
  rintro n i m ⟨⟩
  exact ⟨rfl, fun h => h 0 pattern rfl⟩

/-- A draw is not a test. -/
theorem Numbers.nextDraw : Numbers holds r [] (fun _ => True) Expression.nextDraw := by
  rintro n i m ⟨⟩
  exact ⟨rfl, fun _ => trivial⟩

/-- What has been found already cannot fail any more. -/
theorem SucceedsIff.of_ok {z : Except QueryError α} (hz : z = .ok a) (hf : SucceedsIff p (f a)) :
    SucceedsIff p ((liftM z : Compilation α) >>= f) := by
  subst hz
  exact hf

/-- Where nothing is found, nothing succeeds. -/
theorem SucceedsIff.of_error {z : Except QueryError α} {e : QueryError} (hz : z = .error e) (hp : ¬p) :
    SucceedsIff p ((liftM z : Compilation α) >>= f) := by
  subst hz
  refine fun n => ⟨?_, fun h => absurd h hp⟩
  rintro ⟨b, m, h⟩
  cases h

/-- Looking something up numbers nothing. -/
theorem Numbers.lift {z : Except QueryError α} (hf : ∀ a, z = .ok a → Numbers holds r ps R (f a)) :
    Numbers holds r ps R ((liftM z : Compilation α) >>= f) := by
  cases z with
  | error e =>
    intro n b m h
    cases h
  | ok a => exact hf a rfl

end Compilation

open Compilation

/-- Where nothing is called, all of it is accepted. -/
theorem callsAccepted_nil {registry : Registry} : CallsAccepted registry [] ↔ True :=
  iff_true_intro fun _ h => absurd h List.not_mem_nil

/-- All calls of two lists are accepted if those of both are. -/
theorem callsAccepted_append {registry : Registry} {xs ys : List (FunctionName × Nat)} :
    CallsAccepted registry (xs ++ ys) ↔ CallsAccepted registry xs ∧ CallsAccepted registry ys :=
  List.forall_mem_append

/-- All calls of a list are accepted if the first one and all others are. -/
theorem callsAccepted_cons {registry : Registry} {x : FunctionName × Nat} {xs : List (FunctionName × Nat)} :
    CallsAccepted registry (x :: xs) ↔ x.1.Accepted registry x.2 ∧ CallsAccepted registry xs :=
  List.forall_mem_cons

/-- A call is compiled if the function can be called and the arguments can be compiled. -/
theorem succeedsIff_call {es : List Expression} {k : Callee → Compilation Compiled} {p : Prop}
    (hconstant : ∀ t, SucceedsIff True (k (.constant t))) (hdraw : ∀ d, SucceedsIff True (k (.draw d)))
    (hbuiltin : ∀ b, SucceedsIff p (k (.builtin b))) (hcustom : ∀ g, SucceedsIff p (k (.custom g)))
    (hnone : es = [] → p) :
    SucceedsIff (f.Accepted c.registry es.length ∧ p)
      ((liftM (resolve c f es.length) : Compilation Callee) >>= k) := by
  cases hr : resolve c f es.length with
  | error e =>
    refine .of_error rfl fun h => ?_
    obtain ⟨callee, hok⟩ := exists_resolve h.1
    rw [hr] at hok
    cases hok
  | ok callee =>
    obtain ⟨haccepted, hcallee⟩ := resolve_eq_ok hr
    rw [iff_true_intro haccepted, true_and]
    refine .of_ok rfl ?_
    cases callee with
    | constant t =>
      rw [iff_true_intro (hnone (List.length_eq_zero_iff.1 hcallee.1))]
      exact hconstant t
    | draw d =>
      rw [iff_true_intro (hnone (List.length_eq_zero_iff.1 hcallee.1))]
      exact hdraw d
    | builtin b => exact hbuiltin b
    | custom g => exact hcustom g

mutual

/-- An expression is compiled if and only if all that it calls is accepted. -/
theorem succeedsIff_compile (c : Compiler) :
    (e : Expression) → SucceedsIff (CallsAccepted c.registry e.calls) (e.compile c)
  | .constant _ | .var _ | .isBound _ => by
    rw [calls, compile, callsAccepted_nil]
    exact .pure
  | .or a b | .and a b | .equal a b | .sameTerm a b | .compare _ a b | .arithmetic _ a b => by
    rw [calls, compile, callsAccepted_append]
    exact (succeedsIff_compile c a).pair (succeedsIff_compile c b)
  | .not a | .sign _ a => by
    rw [calls, compile]
    exact (succeedsIff_compile c a).map
  | .member a es => by
    rw [calls, compile, callsAccepted_append]
    exact (succeedsIff_compile c a).pair (succeedsIff_compileAll c es)
  | .hasSolution _ => by
    rw [calls, compile, callsAccepted_nil]
    exact SucceedsIff.nextTest.map
  | .choose a b d => by
    rw [calls, compile, callsAccepted_append, callsAccepted_append, and_assoc]
    exact (succeedsIff_compile c a).bind fun _ =>
      (succeedsIff_compile c b).pair (succeedsIff_compile c d)
  | .coalesce es => by
    rw [calls, compile]
    exact (succeedsIff_compileAll c es).map
  | .call f es => by
    rw [calls, compile, callsAccepted_cons]
    refine succeedsIff_call (fun _ => .pure) (fun _ => SucceedsIff.nextDraw.map)
      (fun _ => (succeedsIff_compileAll c es).map) (fun _ => (succeedsIff_compileAll c es).map) ?_
    rintro rfl
    exact callsAccepted_nil.2 trivial

/-- Several expressions are compiled if and only if all that they call is accepted. -/
theorem succeedsIff_compileAll (c : Compiler) :
    (es : List Expression) → SucceedsIff (CallsAccepted c.registry (callsOfAll es)) (compileAll c es)
  | [] => by
    rw [callsOfAll, compileAll, callsAccepted_nil]
    exact .pure
  | e :: es => by
    rw [callsOfAll, compileAll, callsAccepted_append]
    exact (succeedsIff_compile c e).pair (succeedsIff_compileAll c es)

end

variable (c : Compiler) (holds : Pattern → Bool) (r : Row)

/-- A result has the value of its expression for the row, if the expression is steady. -/
abbrev HasMeaning (e : Expression) (x : Compiled) : Prop := e.isSteady = true → x.term? r = e.meaning c holds r.solution

/-- The results have the values of their expressions for the row, if these are steady. -/
abbrev HaveMeanings (es : List Expression) (xs : List Compiled) : Prop :=
  allSteady es = true → Compiled.terms? r xs = meanings c holds r.solution es

/-! ### Calls -/

/-- A call has the value of what its name is resolved to, if the arguments have theirs. -/
theorem numbers_call (f : FunctionName) {es : List Expression}
    (hes : Numbers holds r (patternsOfAll es) (HaveMeanings c holds r es) (compileAll c es)) :
    Numbers holds r (patternsOfAll es) (HasMeaning c holds r (.call f es)) ((Expression.call f es).compile c) := by
  rw [compile]
  refine .lift fun callee hcallee => ?_
  obtain ⟨-, hcallee⟩ := resolve_eq_ok hcallee
  cases callee with
  | constant t =>
    obtain ⟨hlength, rfl, hnow⟩ := hcallee
    obtain rfl := List.length_eq_zero_iff.1 hlength
    rw [patternsOfAll]
    exact .pure fun _ => by simp [Compiled.term?, meaning, meanings, applied_now hnow]
  | draw d =>
    obtain ⟨hlength, b, hb, hd⟩ := hcallee
    obtain rfl := List.length_eq_zero_iff.1 hlength
    rw [patternsOfAll]
    exact Numbers.nextDraw.map fun i _ h => absurd h (not_isSteady_of_draw? hb hd)
  | builtin b =>
    obtain ⟨hb, hnow⟩ := hcallee
    refine hes.map fun ys hys h => ?_
    rw [isSteady, Bool.and_eq_true] at h
    simp only [Compiled.term?, meaning, hys h.2, applied_builtin hb hnow, Option.bind_eq_bind]
  | custom g =>
    obtain ⟨hb, i, rfl, hg⟩ := hcallee
    refine hes.map fun ys hys h => ?_
    rw [isSteady, Bool.and_eq_true] at h
    simp only [Compiled.term?, meaning, hys h.2, applied_custom hb hg, Option.bind_eq_bind, Option.bind_assoc]

/-! ### All expressions -/

mutual

/-- A compiled expression has the value of its source if the row answers the tests of its patterns. -/
theorem numbers_compile : (e : Expression) → Numbers holds r e.patterns (HasMeaning c holds r e) (e.compile c)
  | .constant _ | .var _ | .isBound _ => by
    rw [patterns, compile]
    exact .pure fun _ => by simp only [Compiled.term?, meaning, Solution.binds]
  | .or a b | .and a b => by
    rw [patterns, compile]
    refine (numbers_compile a).pair (numbers_compile b) fun x y hx hy h => ?_
    rw [isSteady, Bool.and_eq_true] at h
    simp only [Compiled.term?, meaning, hx h.1, hy h.2, either_eq_or, both_eq_and]
  | .not a | .sign _ a => by
    rw [patterns, compile]
    refine (numbers_compile a).map fun x hx h => ?_
    rw [isSteady] at h
    simp only [Compiled.term?, meaning, hx h, Option.map_eq_bind, Option.bind_eq_bind, Option.pure_def,
      Function.comp_def, Option.bind_assoc]
  | .equal a b | .sameTerm a b | .compare _ a b | .arithmetic _ a b => by
    rw [patterns, compile]
    refine (numbers_compile a).pair (numbers_compile b) fun x y hx hy h => ?_
    rw [isSteady, Bool.and_eq_true] at h
    simp only [Compiled.term?, meaning, hx h.1, hy h.2, Option.map_eq_bind, Option.bind_eq_bind,
      Option.pure_def, Function.comp_def]
  | .member a es => by
    rw [patterns, compile]
    refine (numbers_compile a).pair (numbers_compileAll es) fun x ys hx hys h => ?_
    rw [isSteady, Bool.and_eq_true] at h
    simp only [Compiled.term?, meaning, hx h.1, hys h.2, oneOf_eq_any, Option.map_eq_bind, Option.bind_eq_bind,
      Option.pure_def, Function.comp_def]
  | .hasSolution p => by
    rw [patterns, compile]
    refine Numbers.nextTest.map fun i hi _ => ?_
    simp only [Compiled.term?, meaning, hi, Option.map_some]
  | .choose a b d => by
    rw [patterns, compile, List.append_assoc]
    refine (numbers_compile a).bind fun x => (numbers_compile b).pair (numbers_compile d) fun y z hy hz hx h => ?_
    rw [isSteady, Bool.and_eq_true, Bool.and_eq_true] at h
    simp only [Compiled.term?, meaning, hx h.1.1, hy h.1.2, hz h.2, Option.bind_eq_bind, Option.bind_assoc]
  | .coalesce es => by
    rw [patterns, compile]
    refine (numbers_compileAll es).map fun ys hys h => ?_
    rw [isSteady] at h
    simp only [Compiled.term?, meaning, hys h, List.reduceOption, List.head?_filterMap]
  | .call f es => by
    rw [patterns]
    exact numbers_call c holds r f (numbers_compileAll es)

/-- Compiling several expressions numbers their patterns and keeps their meanings. -/
theorem numbers_compileAll :
    (es : List Expression) → Numbers holds r (patternsOfAll es) (HaveMeanings c holds r es) (compileAll c es)
  | [] => by
    rw [patternsOfAll, compileAll]
    exact .pure fun _ => by simp only [Compiled.terms?, meanings]
  | e :: es => by
    rw [patternsOfAll, compileAll]
    refine (numbers_compile e).pair (numbers_compileAll es) fun x ys hx hys h => ?_
    rw [allSteady, Bool.and_eq_true] at h
    simp only [Compiled.terms?, meanings, hx h.1, hys h.2]

end

mutual

/-- The plans of the tests are those of the patterns, in the same order. -/
theorem tests_eq_map_plan : (e : Expression) → e.tests = e.patterns.map Pattern.plan
  | .constant _ | .var _ | .isBound _ | .hasSolution _ => by simp [tests, patterns]
  | .or a b | .and a b | .equal a b | .sameTerm a b | .compare _ a b | .arithmetic _ a b => by
    rw [tests, patterns, tests_eq_map_plan a, tests_eq_map_plan b, List.map_append]
  | .not a | .sign _ a => by rw [tests, patterns, tests_eq_map_plan a]
  | .member a es => by rw [tests, patterns, tests_eq_map_plan a, testsOfAll_eq_map_plan es, List.map_append]
  | .choose a b d => by
    rw [tests, patterns, tests_eq_map_plan a, tests_eq_map_plan b, tests_eq_map_plan d, List.map_append,
      List.map_append]
  | .coalesce es | .call _ es => by rw [tests, patterns, testsOfAll_eq_map_plan es]

/-- The plans of the tests of several expressions are those of their patterns. -/
theorem testsOfAll_eq_map_plan : (es : List Expression) → testsOfAll es = (patternsOfAll es).map Pattern.plan
  | [] => by rw [testsOfAll, patternsOfAll, List.map_nil]
  | e :: es => by
    rw [testsOfAll, patternsOfAll, tests_eq_map_plan e, testsOfAll_eq_map_plan es, List.map_append]

end

/-- An expression can be compiled if and only if all that it calls can be called. -/
theorem exists_ready_iff (c : Compiler) (e : Expression) :
    (∃ r, e.ready c = .ok r) ↔ CallsAccepted c.registry e.calls := by
  rw [← succeedsIff_compile c e ⟨0, 0⟩]
  constructor
  · rintro ⟨r, hr⟩
    exact ⟨_, _, run_compile_of_ready hr⟩
  · rintro ⟨root, m, h⟩
    exact ⟨⟨root, m.tests, m.draws⟩, by rw [ready, h]; rfl⟩

/-- Given the answers of its own patterns, a compiled expression has the value of its source. -/
theorem term?_of_ready {c : Compiler} {e : Expression} {r : Ready} (hr : e.ready c = .ok r) (he : e.isSteady = true)
    (holds : Pattern → Bool) (s : Solution) (seed : Nat) :
    r.root.term? ⟨s, e.patterns.map holds, seed⟩ = e.meaning c holds s :=
  (numbers_compile c holds ⟨s, e.patterns.map holds, seed⟩ e _ _ _ (run_compile_of_ready hr)).2
    (Row.answersFrom_map s seed) he

/-- Compilation preserves the meaning of expressions. It succeeds if and only if every call is one of a built-in
function with an accepted number of arguments, or else of a registered function that accepts it. Then there is one test
for each pattern, in their order, and if an answer says of each pattern whether it has a solution, a steady expression
has the value of its source. -/
theorem ready_preserves_meaning (c : Compiler) (e : Expression) :
    ((∃ r, e.ready c = .ok r) ↔ CallsAccepted c.registry e.calls) ∧
      ∀ r, e.ready c = .ok r →
        e.tests = e.patterns.map Pattern.plan ∧ r.tests = e.patterns.length ∧
          (e.isSteady = true → ∀ (holds : Pattern → Bool) (s : Solution) (seed : Nat),
            r.root.term? ⟨s, e.patterns.map holds, seed⟩ = e.meaning c holds s) := by
  refine ⟨exists_ready_iff c e, fun r hr => ⟨e.tests_eq_map_plan, ?_, term?_of_ready hr⟩⟩
  have htests := (numbers_compile c (fun _ => true) default e _ _ _ (run_compile_of_ready hr)).1
  rwa [Nat.zero_add] at htests

/-- Two tests of which the second one fails, two readings of the clock, and a function with two values. -/
theorem ready_preserves_meaning_two_tests :
    let twice : Iri := ⟨"http://example.com/twice"⟩
    let c : Compiler := ⟨[(twice, ⟨fun n => n == 1, fun ts => some (.sequence (ts ++ ts))⟩)], .string "noon"⟩
    let now : Expression := .call (.keyword .now) []
    let e : Expression := .and (.hasSolution (.bgp []))
      (.and (.not (.hasSolution (.values [] []))) (.call (.iri twice) [.sameTerm now now]))
    let holds : Pattern → Bool := fun p => match p with
      | .bgp _ => true
      | _ => false
    CallsAccepted c.registry e.calls ∧ e.isSteady = true ∧
      ∃ r, e.ready c = .ok r ∧ r.tests = 2 ∧ r.root.term? ⟨.empty, [true, false], 0⟩ = e.meaning c holds .empty ∧
        e.meaning c holds .empty = some (.ofBool true) := by
  intro twice c now e holds
  have hr : e.ready c = .ok _ := rfl
  obtain ⟨haccepted, hmeaning⟩ := ready_preserves_meaning c e
  obtain ⟨-, htests, hvalue⟩ := hmeaning _ hr
  exact ⟨haccepted.1 ⟨_, hr⟩, rfl, _, hr, htests, hvalue rfl holds .empty 0, rfl⟩

end Expression

end SparqlAlgebra
