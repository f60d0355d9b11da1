import SparqlAlgebra.Proofs.Plan.Collected
import SparqlAlgebra.Proofs.Plan.Merging
import SparqlAlgebra.Proofs.Stage.Prompt
import SparqlAlgebra.Proofs.Value.Equality

/-!
# Filters by an inequality

An inequality that admits equality is a strict inequality or an equality, for all rows whose terms can be compared and
are not the same text with differently written tags. So filters by one or the other keep the same ones of these rows.
The inequality has no value for terms that cannot be compared, but the equality may have one, and the inequality does
not tell differently written tags apart, but the equality does.
-/

namespace SparqlAlgebra

namespace Plan

variable {c : Scope} {e : Expression} {r : Expression.Ready}

/-- An expression without tests that draws nothing selects from the rows that the plan before the filter delivers. -/
theorem run_collect_filter_nil (hr : e.ready c.compiler = .ok r) (hdraws : r.draws = 0) (inner : Plan)
    (source : Flow Solution) (st : Store) :
    (filter e [] inner c source >>= collect).run st =
      (((inner c source >>= collect).run st).1.map (List.filter r.accepts), ((inner c source >>= collect).run st).2) := by
  have hfilter : filter e [] inner c source = (do
      let stage ← inner c source
      return c.engine.filterMap (fun kept => if kept.2 then some kept.1 else none) <|
        mapRows c.engine r.draws (fun row => r.root.truth? row == some true) <|
          c.engine.map (fun s => (s, ([] : List Bool))) stage) := by
    unfold filter
    refine congrArg (inner c source >>= ·) (funext fun stage => ?_)
    split
    · contradiction
    · contradiction
    · rw [compile_eq, hr]
      rfl
  rw [hfilter]
  refine run_collect_map (fun stage st => ?_) (inner c source) st
  rw [hdraws, Engine.collect_filterMap, collect_mapRows, Engine.collect_map]
  cases (stage.collect st).1 with
  | error x => rfl
  | ok rows =>
    simp only [Except.map, List.map_map, List.filterMap_map, Except.ok.injEq, Prod.mk.injEq, and_true]
    rw [← List.filterMap_eq_filter]
    rfl

end Plan

namespace Expression

variable {c : Compiler} {x y : Variable} {s : Solution} {a b : Term} {o : Ordering}

/-- Whether a variable is at most another one. -/
def atMost (x y : Variable) : Expression := .compare .lessOrEqual (.var x) (.var y)

/-- Whether a variable is less than another one or equal to it. -/
def lessOrEqual (x y : Variable) : Expression := .or (.compare .less (.var x) (.var y)) (.equal (.var x) (.var y))

/-- The rows for which the inequality is true. -/
theorem exists_ready_atMost (c : Compiler) (x y : Variable) : ∃ r, (atMost x y).ready c = .ok r ∧ r.draws = 0 ∧
    ∀ {s a b o}, s.get? x = some a → s.get? y = some b → a.compare? b = some o → r.accepts s = (o != .gt) := by
  refine ⟨⟨.compare .lessOrEqual (.var x) (.var y), 0, 0⟩, rfl, rfl, fun {s a b o} ha hb ho => ?_⟩
  have hvalue : Compiled.term? ⟨s, [], 0⟩ (.compare .lessOrEqual (.var x) (.var y)) = some (.ofBool (o != .gt)) := by
    simp only [Compiled.term?, ha, hb, ho, Option.bind_some, Option.map_some]
    rfl
  rw [Ready.accepts, Compiled.truth?, hvalue]
  cases o <;> decide

/-- The rows for which the strict inequality or the equality is true. -/
theorem exists_ready_lessOrEqual (c : Compiler) (x y : Variable) : ∃ r, (lessOrEqual x y).ready c = .ok r ∧
    r.draws = 0 ∧ ∀ {s a b o}, s.get? x = some a → s.get? y = some b → a.compare? b = some o →
      r.accepts s = (o == .lt || o == .eq && !a.differInTag b) := by
  refine ⟨⟨.or (.compare .less (.var x) (.var y)) (.equal (.var x) (.var y)), 0, 0⟩, rfl, rfl,
    fun {s a b o} ha hb ho => ?_⟩
  have hvalue : Compiled.term? ⟨s, [], 0⟩ (.or (.compare .less (.var x) (.var y)) (.equal (.var x) (.var y))) =
      (Truth.or (some (o == .lt)) (some (o == .eq && !a.differInTag b))).map .ofBool := by
    have hbool : ∀ v : Bool, Term.truth? (.ofBool v) = some v := by decide
    simp only [Compiled.term?, ha, hb, ho, Term.equal?_of_compare? ho, Option.bind_some, Option.map_some, hbool]
    rfl
  rw [Ready.accepts, Compiled.truth?, hvalue]
  cases o <;> cases a.differInTag b <;> decide

end Expression

namespace Pattern

/-- A filter without tests keeps the rows that its expression accepts. -/
theorem solveOver_filter {e : Expression} {r : Expression.Ready} {c : Scope} (htests : e.tests = [])
    (hr : e.ready c.compiler = .ok r) (hdraws : r.draws = 0) (p : Pattern) (st : Store) (source : Flow Solution) :
    (Pattern.filter e p).solveOver c st source = (p.solveOver c st source).map (List.filter r.accepts) := by
  rw [solveOver, solveOver, plan, htests, Plan.run_collect_filter_nil hr hdraws]

/-- Of two terms that can be compared neither is less than the other one if and only if they are equal, unless they are
texts that differ in the case of the language tag. Exchanging them reverses the order and keeps the equality. So an
inequality that admits equality accepts what a strict inequality or an equality accepts. Filters evaluate either for
each row that their group delivers. -/
theorem filter_atMost :
    (∀ {a b : Term} {o : Ordering}, a.compare? b = some o →
      b.compare? a = some o.swap ∧ b.equal? a = a.equal? b ∧
      (a.differInTag b = false → (o = .eq ↔ a.equal? b = some true)) ∧
      (a.differInTag b = true → o = .eq ∧ a.equal? b = some false)) ∧
    ∀ (p : Pattern) (c : Scope) (st : Store) (source : Flow Solution) (x y : Variable),
      ∃ atMost lessOrEqual : Solution → Bool,
        (Pattern.filter (.atMost x y) p).solveOver c st source = (p.solveOver c st source).map (List.filter atMost) ∧
        (Pattern.filter (.lessOrEqual x y) p).solveOver c st source =
          (p.solveOver c st source).map (List.filter lessOrEqual) ∧
        ∀ {s a b o}, s.get? x = some a → s.get? y = some b → a.compare? b = some o →
          atMost s = (o != .gt) ∧ (a.differInTag b = false → lessOrEqual s = atMost s) ∧
          (a.differInTag b = true → atMost s = true ∧ lessOrEqual s = false) := by
  refine ⟨fun {a b o} h => ?_, fun p c st source x y => ?_⟩
  · have hequal := Term.equal?_of_compare? h
    have hswap := Term.compare?_swap a b
    rw [h] at hswap
    refine ⟨hswap, Term.equal?_comm a b, fun hsame => ?_, fun hdiffer => ?_⟩
    · rw [hequal, hsame, Bool.not_false, Bool.and_true, Option.some.injEq, beq_iff_eq]
    · rw [hequal, hdiffer, Bool.not_true, Bool.and_false]
      exact ⟨Option.some.inj (h.symm.trans (Term.compare?_of_differInTag hdiffer)), rfl⟩
  · obtain ⟨r, hr, hdraws, haccepts⟩ := Expression.exists_ready_atMost c.compiler x y
    obtain ⟨r', hr', hdraws', haccepts'⟩ := Expression.exists_ready_lessOrEqual c.compiler x y
    refine ⟨r.accepts, r'.accepts, solveOver_filter rfl hr hdraws p st source,
      solveOver_filter rfl hr' hdraws' p st source, fun {s a b o} ha hb ho => ?_⟩
    rw [haccepts ha hb ho, haccepts' ha hb ho]
    refine ⟨rfl, fun hsame => ?_, fun hdiffer => ?_⟩
    · rw [hsame]
      cases o <;> rfl
    · obtain rfl := Option.some.inj (ho.symm.trans (Term.compare?_of_differInTag hdiffer))
      rw [hdiffer]
      exact ⟨rfl, rfl⟩

/-- An integer and a decimal with the same value. -/
theorem filter_atMost_one :
    let one : Term := .literal (.typed "1" Xsd.integer)
    let decimal : Term := .literal (.typed "1.0" Xsd.decimal)
    let x : Variable := ⟨"x"⟩
    let y : Variable := ⟨"y"⟩
    let st : Store := ⟨⟨.empty defaultGraphIri ⟨true, true⟩, [], fun _ => ⟨true, true⟩⟩, none, 0⟩
    let c : Scope := ⟨⟨.streaming, ⟨2, .structural, true⟩⟩, ⟨[], one⟩, .default, none⟩
    let s : Solution := (Solution.empty.insert x one).insert y decimal
    one.compare? decimal = some .eq ∧ one.equal? decimal = some true ∧ decimal.equal? one = some true ∧
      (Pattern.filter (.atMost x y) (.bgp [])).solveOver c st (.ofList [s]) = .ok [s] ∧
      (Pattern.filter (.lessOrEqual x y) (.bgp [])).solveOver c st (.ofList [s]) = .ok [s] := by
  intro one decimal x y st c s
  have hcompare : one.compare? decimal = some .eq := by decide +kernel
  have hrow : (Pattern.bgp []).solveOver c st (.ofList [s]) = .ok [s] := by decide +kernel
  have hx : s.get? x = some one := by decide
  have hy : s.get? y = some decimal := by decide
  obtain ⟨-, hcomm, hequal, -⟩ := filter_atMost.1 hcompare
  have hone : one.equal? decimal = some true := (hequal (by decide +kernel)).1 rfl
  obtain ⟨atMost, lessOrEqual, hatMost, hless, haccepts⟩ := filter_atMost.2 (.bgp []) c st (.ofList [s]) x y
  obtain ⟨hs, hsame, -⟩ := haccepts hx hy hcompare
  refine ⟨hcompare, hone, hcomm.trans hone, ?_, ?_⟩
  · rw [hatMost, hrow, Except.map, List.filter_cons_of_pos hs, List.filter_nil]
  · rw [hless, hrow, Except.map, List.filter_cons_of_pos ((hsame (by decide +kernel)).trans hs), List.filter_nil]

/-- The same text in the same language with differently written tags: neither is less than the other one, but they are
not equal. Only the inequality that admits equality keeps the row. -/
theorem differently_written_tags_are_not_equal :
    let lower : Term := .literal (.tagged "a" "en")
    let upper : Term := .literal (.tagged "a" "EN")
    let x : Variable := ⟨"x"⟩
    let y : Variable := ⟨"y"⟩
    let st : Store := ⟨⟨.empty defaultGraphIri ⟨true, true⟩, [], fun _ => ⟨true, true⟩⟩, none, 0⟩
    let c : Scope := ⟨⟨.streaming, ⟨2, .structural, true⟩⟩, ⟨[], lower⟩, .default, none⟩
    let s : Solution := (Solution.empty.insert x lower).insert y upper
    lower.compare? upper = some .eq ∧ lower.equal? upper = some false ∧
      (Pattern.filter (.atMost x y) (.bgp [])).solveOver c st (.ofList [s]) = .ok [s] ∧
      (Pattern.filter (.lessOrEqual x y) (.bgp [])).solveOver c st (.ofList [s]) = .ok [] := by
  decide +kernel

end Pattern

end SparqlAlgebra
