import SparqlAlgebra.Proofs.Expression.Meaning

/-!
# Membership as a disjunction, and negated connectives

An operand without a value does not spoil a connective that the other operand decides, and a needle is a member of a
list if it is equal to one value, even if another one cannot be compared with it. So membership in a list that is not
empty is the disjunction of the equalities, however that is bracketed, and negation exchanges disjunction and
conjunction: both sides are true, false or without a value together.
-/

namespace SparqlAlgebra

/-- The term of an outcome tells the outcome. -/
theorem Term.truth?_of_map_ofBool (o : Option Bool) : (o.map Term.ofBool).bind Term.truth? = o := by
  rcases o with _ | _ | _ <;> rfl

/-- Rows with one solution that answer the tests of some patterns alike. -/
def Row.Alike (ps qs : List Pattern) (x y : Row) : Prop :=
  x.solution = y.solution ∧ ∃ holds, x.AnswersFrom holds 0 ps ∧ y.AnswersFrom holds 0 qs

namespace Expression

open Compilation

/-- A disjunction of the equalities of an expression with others, in their order and bracketed in any way. -/
inductive IsOneOf (n : Expression) : List Expression → Expression → Prop
  | equal (e : Expression) : IsOneOf n [e] (.equal n e)
  | or {hs ks : List Expression} {a b : Expression} : IsOneOf n hs a → IsOneOf n ks b → IsOneOf n (hs ++ ks) (.or a b)

/-- Two expressions can be compiled both or not at all, and for rows that are related both of them are true, both are
false or both have no value. -/
structure SameOutcome (c : Compiler) (related : Row → Row → Prop) (e f : Expression) : Prop where
  /-- Both can be compiled or neither. -/
  compiled : (∃ q, e.ready c = .ok q) ↔ ∃ r, f.ready c = .ok r
  /-- Rows that are related give both the same truth value, or none. -/
  outcome : ∀ q r, e.ready c = .ok q → f.ready c = .ok r → ∀ x y, related x y →
    ∃ o : Option Bool, q.root.term? x = o.map .ofBool ∧ r.root.term? y = o.map .ofBool

variable {c : Compiler} {holds : Pattern → Bool} {s : Solution} {n e : Expression} {hs ks : List Expression}

/-! ## Membership -/

/-- A false operand of a disjunction can be left out. -/
theorem either_false (a : Option Bool) : either a (some false) = a := by
  rcases a with _ | _ | _ <;> rfl

/-- A false operand in front of a disjunction can be left out. -/
theorem false_either (a : Option Bool) : either (some false) a = a := by
  rcases a with _ | _ | _ <;> rfl

/-- Disjunctions can be put in any brackets, errors included. -/
theorem either_assoc (a b c : Option Bool) : either (either a b) c = either a (either b c) := by
  rcases a with _ | _ | _ <;> rcases b with _ | _ | _ <;> rcases c with _ | _ | _ <;> rfl

/-- Searching one list after another. -/
theorem oneOf_append (x : Term) (ys zs : List (Option Term)) :
    oneOf x (ys ++ zs) = either (oneOf x ys) (oneOf x zs) := by
  induction ys with
  | nil => exact (false_either _).symm
  | cons y ys ih => rw [List.cons_append, oneOf, ih, oneOf, either_assoc]

/-- The meanings of more expressions come after those of the first ones. -/
theorem meanings_append (hs ks : List Expression) :
    meanings c holds s (hs ++ ks) = meanings c holds s hs ++ meanings c holds s ks := by
  induction hs with
  | nil => rw [meanings, List.nil_append, List.nil_append]
  | cons e hs ih => rw [List.cons_append, meanings, meanings, ih, List.cons_append]

/-- The calls of more expressions come after those of the first ones. -/
theorem callsOfAll_append (hs ks : List Expression) : callsOfAll (hs ++ ks) = callsOfAll hs ++ callsOfAll ks := by
  induction hs with
  | nil => rw [callsOfAll, List.nil_append, List.nil_append]
  | cons e hs ih => rw [List.cons_append, callsOfAll, callsOfAll, ih, List.append_assoc]

/-- All are steady if those of both parts are. -/
theorem allSteady_append (hs ks : List Expression) : allSteady (hs ++ ks) = (allSteady hs && allSteady ks) := by
  induction hs with
  | nil => rw [allSteady, List.nil_append, Bool.true_and]
  | cons e hs ih => rw [List.cons_append, allSteady, allSteady, ih, Bool.and_assoc]

/-- The outcome of membership, with no value if the needle has none. -/
theorem meaning_member (n : Expression) (hs : List Expression) :
    (Expression.member n hs).meaning c holds s =
      ((n.meaning c holds s).bind fun x => oneOf x (meanings c holds s hs)).map .ofBool := by
  rw [meaning]
  cases n.meaning c holds s with
  | none => rfl
  | some x => exact Option.map_eq_bind.symm

namespace IsOneOf

/-- There is such a disjunction for every list that is not empty. -/
theorem exists_of_ne_nil (n : Expression) (h : hs ≠ []) : ∃ e, IsOneOf n hs e := by
  induction hs with
  | nil => exact absurd rfl h
  | cons e hs ih =>
    by_cases hhs : hs = []
    · subst hhs
      exact ⟨_, .equal e⟩
    · obtain ⟨b, hb⟩ := ih hhs
      exact ⟨_, .or (.equal e) hb⟩

/-- All that the disjunction calls is accepted if all that the test for a member calls is. -/
theorem callsAccepted_iff {registry : Registry} (h : IsOneOf n hs e) :
    CallsAccepted registry e.calls ↔ CallsAccepted registry n.calls ∧ CallsAccepted registry (callsOfAll hs) := by
  induction h with
  | equal e => rw [calls, callsAccepted_append, callsOfAll, callsOfAll, List.append_nil]
  | or _ _ iha ihb =>
    rw [calls, callsAccepted_append, iha, ihb, callsOfAll_append, callsAccepted_append]
    exact and_and_left.symm

/-- The disjunction is steady if the term and all members are. -/
theorem isSteady (h : IsOneOf n hs e) (hn : n.isSteady = true) (hhs : allSteady hs = true) : e.isSteady = true := by
  induction h with
  | equal e =>
    rw [allSteady, allSteady, Bool.and_true] at hhs
    rw [Expression.isSteady, hn, hhs, Bool.and_self]
  | or _ _ iha ihb =>
    rw [allSteady_append, Bool.and_eq_true] at hhs
    rw [Expression.isSteady, iha hhs.1, ihb hhs.2, Bool.and_self]

/-- The disjunction asks for the same equalities as membership does. -/
theorem meaning_eq (h : IsOneOf n hs e) : e.meaning c holds s = (Expression.member n hs).meaning c holds s := by
  rw [meaning_member]
  induction h with
  | equal e =>
    rw [meaning]
    cases n.meaning c holds s with
    | none => rfl
    | some x =>
      rw [meanings, meanings, Option.bind_some, oneOf, oneOf, either_false]
      cases e.meaning c holds s with
      | none => rfl
      | some y => exact Option.map_eq_bind.symm
  | or _ _ iha ihb =>
    rw [meaning, iha, ihb, meanings_append]
    cases n.meaning c holds s with
    | none => rfl
    | some x =>
      rw [Option.bind_some, Option.bind_some, Option.bind_some, oneOf_append, Term.truth?_of_map_ofBool,
        Term.truth?_of_map_ofBool]

end IsOneOf

/-- The value of a steady expression for a row that answers its tests. -/
theorem term?_of_answers {r : Ready} (hr : e.ready c = .ok r) (he : e.isSteady = true) {row : Row}
    (hrow : row.AnswersFrom holds 0 e.patterns) : r.root.term? row = e.meaning c holds row.solution :=
  (numbers_compile c holds row e _ _ _ (run_compile_of_ready hr)).2 hrow he

/-- The test for a member has the outcome of the disjunction. -/
theorem sameOutcome_member (hn : n.isSteady = true) (hhs : allSteady hs = true) (h : IsOneOf n hs e) :
    SameOutcome c (Row.Alike (Expression.member n hs).patterns e.patterns) (.member n hs) e where
  compiled := by rw [exists_ready_iff, exists_ready_iff, h.callsAccepted_iff, calls, callsAccepted_append]
  outcome := by
    rintro q r hq hr x y ⟨hxy, holds, hx, hy⟩
    have hmember : (Expression.member n hs).isSteady = true := by rw [isSteady, hn, hhs, Bool.and_self]
    refine ⟨_, (term?_of_answers hq hmember hx).trans (meaning_member n hs), ?_⟩
    rw [term?_of_answers hr (h.isSteady hn hhs) hy, h.meaning_eq, meaning_member, hxy]

/-! ## Negation -/

/-- The opposite of a disjunction is the conjunction of the opposites, errors included. -/
theorem not_either (a b : Option Bool) : (either a b).map (!·) = both (a.map (!·)) (b.map (!·)) := by
  rcases a with _ | _ | _ <;> rcases b with _ | _ | _ <;> rfl

/-- The opposite of a conjunction is the disjunction of the opposites, errors included. -/
theorem not_both (a b : Option Bool) : (both a b).map (!·) = either (a.map (!·)) (b.map (!·)) := by
  rcases a with _ | _ | _ <;> rcases b with _ | _ | _ <;> rfl

end Expression

namespace Compiled

open Expression

variable (x y : Compiled) (row : Row)

/-- A compiled disjunction has the disjunction of the truth values of its operands. -/
theorem term?_or : (Compiled.or x y).term? row = (either (x.truth? row) (y.truth? row)).map .ofBool := by
  rw [term?, either_eq_or]
  rfl

/-- A compiled conjunction has their conjunction. -/
theorem term?_and : (Compiled.and x y).term? row = (both (x.truth? row) (y.truth? row)).map .ofBool := by
  rw [term?, both_eq_and]
  rfl

/-- A compiled negation has the opposite truth value. -/
theorem term?_not : (Compiled.not x).term? row = ((x.truth? row).map (!·)).map .ofBool := by
  rw [term?, Option.map_map]
  rfl

variable {x y row}

/-- An expression with a truth value as its term has this truth value. -/
theorem truth?_of_term? {o : Option Bool} (h : x.term? row = o.map .ofBool) : x.truth? row = o := by
  rw [truth?, h, Term.truth?_of_map_ofBool]

/-- The truth value of a disjunction is the disjunction of those of its operands. -/
theorem truth?_or : (Compiled.or x y).truth? row = either (x.truth? row) (y.truth? row) :=
  truth?_of_term? (term?_or x y row)

/-- The truth value of a conjunction is their conjunction. -/
theorem truth?_and : (Compiled.and x y).truth? row = both (x.truth? row) (y.truth? row) :=
  truth?_of_term? (term?_and x y row)

/-- The truth value of a negation is the opposite one. -/
theorem truth?_not : (Compiled.not x).truth? row = (x.truth? row).map (!·) := truth?_of_term? (term?_not x row)

end Compiled

namespace Expression

open Compilation

section Pairs

variable {a b e f : Expression} {op op' : Compiled → Compiled → Compiled}

/-- An expression of two parts is made of what the first one is compiled to and what the second one is compiled to after
it. -/
theorem ready_pair (he : e.compile c = do return op (← a.compile c) (← b.compile c)) (r : Ready) :
    e.ready c = .ok r ↔ ∃ x m y k, (a.compile c).run ⟨0, 0⟩ = .ok (x, m) ∧ (b.compile c).run m = .ok (y, k) ∧
      r = ⟨op x y, k.tests, k.draws⟩ := by
  constructor
  · intro hr
    have hrun := run_compile_of_ready hr
    rw [he] at hrun
    obtain ⟨x, m, hx, hrest⟩ := run_bind_eq_ok_iff.1 hrun
    obtain ⟨y, k, hy, hlast⟩ := run_bind_eq_ok_iff.1 hrest
    refine ⟨x, m, y, k, hx, hy, ?_⟩
    cases r
    cases hlast
    rfl
  · rintro ⟨x, m, y, k, hx, hy, rfl⟩
    have hrun : (e.compile c).run ⟨0, 0⟩ = .ok (op x y, k) := by
      rw [he]
      exact run_bind_eq_ok_iff.2 ⟨x, m, hx, run_bind_eq_ok_iff.2 ⟨y, k, hy, rfl⟩⟩
    rw [ready, hrun]
    rfl

/-- Two expressions of the same parts have the same outcome for every row if they make the same of the outcomes of the
parts. The parts draw the same values, as they are compiled in the same order. -/
theorem sameOutcome_pair (connective : Option Bool → Option Bool → Option Bool)
    (he : e.compile c = do return op (← a.compile c) (← b.compile c))
    (hf : f.compile c = do return op' (← a.compile c) (← b.compile c))
    (hop : ∀ x y row, (op x y).term? row = (connective (x.truth? row) (y.truth? row)).map .ofBool)
    (hop' : ∀ x y row, (op' x y).term? row = (connective (x.truth? row) (y.truth? row)).map .ofBool) :
    SameOutcome c Eq e f where
  compiled := by
    constructor
    · rintro ⟨q, hq⟩
      obtain ⟨x, m, y, k, hx, hy, -⟩ := (ready_pair he q).1 hq
      exact ⟨_, (ready_pair hf _).2 ⟨x, m, y, k, hx, hy, rfl⟩⟩
    · rintro ⟨r, hr⟩
      obtain ⟨x, m, y, k, hx, hy, -⟩ := (ready_pair hf r).1 hr
      exact ⟨_, (ready_pair he _).2 ⟨x, m, y, k, hx, hy, rfl⟩⟩
  outcome := by
    rintro q r hq hr row _ rfl
    obtain ⟨x, m, y, k, hx, hy, rfl⟩ := (ready_pair he q).1 hq
    obtain ⟨x', m', y', k', hx', hy', rfl⟩ := (ready_pair hf r).1 hr
    rw [hx] at hx'
    cases hx'
    rw [hy] at hy'
    cases hy'
    exact ⟨_, hop x y row, hop' x y row⟩

end Pairs

/-- The negation of a disjunction is the conjunction of the negations, whatever the operands are. -/
theorem sameOutcome_not_or (a b : Expression) : SameOutcome c Eq (.not (.or a b)) (.and (.not a) (.not b)) := by
  have hor : (Expression.not (.or a b)).compile c =
      do return (fun x y => Compiled.not (.or x y)) (← a.compile c) (← b.compile c) := by
    simp only [compile, bind_assoc, pure_bind]
  have hand : (Expression.and (.not a) (.not b)).compile c =
      do return (fun x y => Compiled.and (.not x) (.not y)) (← a.compile c) (← b.compile c) := by
    simp only [compile, bind_assoc, pure_bind]
  refine sameOutcome_pair (fun u v => both (u.map (!·)) (v.map (!·))) hor hand (fun x y row => ?_) fun x y row => ?_
  · rw [Compiled.term?_not, Compiled.truth?_or, not_either]
  · rw [Compiled.term?_and, Compiled.truth?_not, Compiled.truth?_not]

/-- The negation of a conjunction is the disjunction of the negations, whatever the operands are. -/
theorem sameOutcome_not_and (a b : Expression) : SameOutcome c Eq (.not (.and a b)) (.or (.not a) (.not b)) := by
  have hand : (Expression.not (.and a b)).compile c =
      do return (fun x y => Compiled.not (.and x y)) (← a.compile c) (← b.compile c) := by
    simp only [compile, bind_assoc, pure_bind]
  have hor : (Expression.or (.not a) (.not b)).compile c =
      do return (fun x y => Compiled.or (.not x) (.not y)) (← a.compile c) (← b.compile c) := by
    simp only [compile, bind_assoc, pure_bind]
  refine sameOutcome_pair (fun u v => either (u.map (!·)) (v.map (!·))) hand hor (fun x y row => ?_) fun x y row => ?_
  · rw [Compiled.term?_not, Compiled.truth?_and, not_both]
  · rw [Compiled.term?_or, Compiled.truth?_not, Compiled.truth?_not]

/-- Membership in a list that is not empty has the outcome of the disjunction of the equalities, however that is
bracketed. The needle is evaluated once on the one side and for every equality on the other, so it must not draw values.
The negation of a disjunction has the outcome of the conjunction of the negations, and the other way round, even if the
operands draw values. -/
theorem connectives_same_outcome (c : Compiler) :
    (∀ (n : Expression) (hs : List Expression), n.isSteady = true → allSteady hs = true → hs ≠ [] →
      (∃ e, IsOneOf n hs e) ∧ ∀ e, IsOneOf n hs e →
        SameOutcome c (Row.Alike (Expression.member n hs).patterns e.patterns) (.member n hs) e) ∧
      ∀ a b : Expression,
        SameOutcome c Eq (.not (.or a b)) (.and (.not a) (.not b)) ∧
          SameOutcome c Eq (.not (.and a b)) (.or (.not a) (.not b)) :=
  ⟨fun n _ hn hhs hne => ⟨IsOneOf.exists_of_ne_nil n hne, fun _ h => sameOutcome_member hn hhs h⟩,
    fun a b => ⟨sameOutcome_not_or a b, sameOutcome_not_and a b⟩⟩

/-- A needle that is equal to the last member, although the first one is unbound. The needle is itself a test, which is
answered three times for the disjunction. -/
theorem connectives_same_outcome_unbound :
    let c : Compiler := ⟨[], .string "noon"⟩
    let n : Expression := .hasSolution (.bgp [])
    let hs : List Expression := [.var ⟨"x"⟩, .hasSolution (.values [⟨"y"⟩] []), .constant (.ofBool true)]
    let e : Expression := .or (.or (.equal n (.var ⟨"x"⟩)) (.equal n (.hasSolution (.values [⟨"y"⟩] []))))
      (.equal n (.constant (.ofBool true)))
    n.isSteady = true ∧ allSteady hs = true ∧ hs ≠ [] ∧ IsOneOf n hs e ∧
      ∃ q r, (Expression.member n hs).ready c = .ok q ∧ e.ready c = .ok r ∧
        q.root.term? ⟨.empty, [true, false], 0⟩ = some (.ofBool true) ∧
        r.root.term? ⟨.empty, [true, true, false, true], 1⟩ = some (.ofBool true) := by
  intro c n hs e
  let holds : Pattern → Bool := fun p => p.scopeOccurrences.isEmpty
  have he : IsOneOf n hs e := .or (.or (.equal _) (.equal _)) (.equal _)
  have hq : (Expression.member n hs).ready c = .ok _ := rfl
  have hr : e.ready c = .ok _ := rfl
  have hsame := ((connectives_same_outcome c).1 n hs rfl rfl nofun).2 e he
  have hanswers : ∀ ps seed, Row.AnswersFrom holds ⟨.empty, ps.map holds, seed⟩ 0 ps :=
    fun _ => Row.answersFrom_map .empty
  have halike : Row.Alike (Expression.member n hs).patterns e.patterns
      ⟨.empty, [true, false], 0⟩ ⟨.empty, [true, true, false, true], 1⟩ :=
    ⟨rfl, holds, hanswers _ 0, hanswers e.patterns 1⟩
  obtain ⟨o, hmember, hdisjunction⟩ := hsame.outcome _ _ hq hr _ _ halike
  have htrue : o.map Term.ofBool = some (.ofBool true) := hmember.symm.trans rfl
  exact ⟨rfl, rfl, nofun, he, _, _, hq, hr, hmember.trans htrue, hdisjunction.trans htrue⟩

end Expression

end SparqlAlgebra
