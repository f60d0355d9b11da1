import SparqlAlgebra.Proofs.Algebra.Merging
import SparqlAlgebra.Proofs.Expression.Reads
import SparqlAlgebra.Proofs.Plan.GraphVariable
import SparqlAlgebra.Proofs.Plan.RowsTested

/-!
# Plans that join

Without filters, optional parts and other operators that look at the rows, a plan joins its rows with the solutions that
it has for the empty row. Searches are part of this as long as they do not number their hits, and paths as long as they
cannot be empty. The rows may bind anything but the variables that stand for blank nodes of the pattern and those that
take the results of its searches.
-/

namespace SparqlAlgebra

open Solution Stage Join

variable {P : Store → Prop} {c : Scope} {d : Dataset} {r : GraphRef} {st : Store} {s : Solution}

/-- An active graph that does not depend on the row stands for its reference. -/
theorem Scope.shows_of_activeGraph? (hr : c.activeGraph? d = .ok (some r)) : c.Shows d r c.active := by
  unfold activeGraph? at hr
  cases hactive : c.active with
  | default =>
    rw [hactive] at hr
    cases hr
    rfl
  | named iri =>
    rw [hactive] at hr
    dsimp only at hr
    split at hr
    · rename_i hthere
      cases hr
      exact ⟨hthere, rfl⟩
    · cases hr
  | union iris =>
    rw [hactive] at hr
    cases hr
    rfl
  | bound v =>
    rw [hactive] at hr
    cases hr

/-- An active graph that is there is no error. -/
theorem Scope.ne_error_of_activeGraph? (hr : c.activeGraph? d = .ok (some r)) (e : QueryError)
    (he : c.activeGraph? d = .error e) : False := by
  rw [hr] at he
  cases he

/-- In an active graph that does not depend on the row each row finds what it finds there. -/
theorem Scope.find_of_activeGraph? (hr : c.activeGraph? d = .ok (some r))
    (f : GraphRef → Solution → Multiset Solution) (s : Solution) : c.find d f s c.active = f r s := by
  have hshows := shows_of_activeGraph? hr
  cases hactive : c.active with
  | default =>
    rw [hactive] at hshows
    rw [show r = _ from hshows]
    rfl
  | named iri =>
    rw [hactive] at hshows
    rw [hshows.2]
    rfl
  | union iris =>
    rw [hactive] at hshows
    rw [show r = _ from hshows]
    rfl
  | bound v =>
    rw [activeGraph?, hactive] at hr
    cases hr

/-! ## Searches and paths -/

namespace BoundSearch

variable {q : BoundSearch}

/-- The variables that take the results of a search. -/
def results (q : BoundSearch) : List Variable := q.relevance.toList ++ q.rank.toList

/-- Binding results to open variables can be done before or after a merge. -/
theorem merge?_bindResults (hs : ∀ v ∈ q.results, s.get? v = none) (x : Hit) (m : Solution) :
    s.merge? (q.bindResults x m) = (s.merge? m).map (q.bindResults x) := by
  rw [results, List.forall_mem_append] at hs
  unfold bindResults
  cases hrelevance : q.relevance with
  | none =>
    cases hrank : q.rank with
    | none => simp
    | some w => exact merge?_insert (hs.2 w (by simp [hrank])) _
  | some v =>
    have hv : s.get? v = none := hs.1 v (by simp [hrelevance])
    cases hrank : q.rank with
    | none => exact merge?_insert hv _
    | some w =>
      have hw : s.get? w = none := hs.2 w (by simp [hrank])
      dsimp only
      rw [merge?_insert hw, merge?_insert hv, Option.map_map]
      rfl

/-- A hit is a hit for the triple that is scored. -/
theorem triple_of_score? {query : Search} {place : SearchPlace} {t : Triple} {x : Hit}
    (h : query.score? place t = some x) : x.triple = t := by
  obtain ⟨text, -, hx⟩ := Option.bind_eq_some_iff.1 h
  dsimp only at hx
  split at hx
  · rw [← Option.some.inj hx]
  · cases hx

/-- What is filled into the pattern of a search makes no difference once its matches are merged with the row. -/
theorem patternFor_match?_bind_merge? (q : BoundSearch) (s : Solution) (t : Triple) :
    ((q.patternFor s).match? t).bind s.merge? = (q.query.pattern.match? t).bind s.merge? := by
  have hpart : Extends s (s.erase q.query.searched) := by
    intro v u hv
    rw [erase, get?_filter] at hv
    exact Option.filter_eq_some_iff.1 hv |>.1
  rw [patternFor, ← bind_merge?_of_extends hpart, TriplePattern.bind_match?_bind_merge?, bind_merge?_of_extends hpart]

/-- What a row finds in a search are the hits of the whole pattern that it can be merged with. -/
theorem rows_eq (d : Dataset) (r : GraphRef) (q : BoundSearch) (s : Solution) :
    q.rows d r s = (q.query.hits d r).filterMap fun x =>
      ((q.query.pattern.match? x.triple).bind s.merge?).map (q.bindResults x) := by
  -- A triple that does not match has no merge either, so the patterns need not select the triples.
  have hmatching : ∀ (p : TriplePattern) (place : SearchPlace),
      ((((r.tripleSet d).filter p.isMatch).filterMap (q.query.score? place) : List Hit) : Multiset Hit).filterMap
          (fun x => ((p.match? x.triple).bind s.merge?).map (q.bindResults x)) =
        ((r.tripleSet d).filterMap fun t => (q.query.score? place t).bind fun x =>
          ((p.match? t).bind s.merge?).map (q.bindResults x) : List Solution) := by
    intro p place
    rw [Multiset.filterMap_coe, List.filterMap_filterMap, List.filterMap_filter]
    refine congrArg _ (List.filterMap_congr fun t _ => ?_)
    cases hscore : q.query.score? place t with
    | none => simp
    | some x =>
      rw [Option.bind_some, Option.bind_some, triple_of_score? hscore]
      split
      · rfl
      · rename_i hn
        cases hp : p.match? t with
        | none => rfl
        | some m => exact absurd (TriplePattern.isMatch_iff.2 ⟨m, hp⟩) hn
  unfold rows Search.hits
  rw [fault?_queryFor, place?_queryFor]
  split
  · rename_i place _ _
    refine Eq.trans (hmatching (q.patternFor s) place) ?_
    simp only [patternFor_match?_bind_merge?]
    exact (hmatching q.query.pattern place).symm
  · rfl

/-- A row that binds none of the variables that take the results may be merged with the hits afterwards. -/
theorem carries_rows (d : Dataset) (r : GraphRef) (q : BoundSearch) :
    Rows.Carries q.results fun V => V.bind (q.rows d r) := by
  refine ⟨fun V => by simp, fun s V hs => ?_⟩
  rw [Multiset.bind_filterMap, Multiset.filterMap_bind]
  refine Multiset.bind_congr fun a _ => ?_
  rw [rows_eq, Multiset.filterMap_filterMap]
  -- The hits of the whole pattern do not depend on the row, so the merges can be compared hit by hit.
  have hhit : ∀ x : Hit, (((q.query.pattern.match? x.triple).bind a.merge?).map (q.bindResults x)).bind s.merge? =
      (s.merge? a).bind fun b => ((q.query.pattern.match? x.triple).bind b.merge?).map (q.bindResults x) := by
    intro x
    have hset : ∀ u : Option Solution, (u.map (q.bindResults x)).bind s.merge? =
        (u.bind s.merge?).map (q.bindResults x) := by
      rintro (_ | u)
      · rfl
      · exact merge?_bindResults hs x u
    rw [hset, Option.bind_assoc]
    simp only [← merge?_assoc]
    cases s.merge? a with
    | none => cases q.query.pattern.match? x.triple <;> rfl
    | some b => rfl
  simp only [hhit]
  cases s.merge? a with
  | none => simp [Multiset.filterMap_eq_bind]
  | some b => exact rows_eq d r q b

end BoundSearch

namespace SearchPlan

/-- The variables that take the results of the searches. -/
def results (plan : SearchPlan) : List Variable := plan.searches.flatMap (·.results)

/-- Patterns are joined, and then each search treats the rows on their own. -/
theorem carries_rows (d : Dataset) (r : GraphRef) (plan : SearchPlan) :
    Rows.Carries plan.results fun V => V.bind (plan.rows d r) := by
  have hfold : ∀ (qs : List BoundSearch) (vs : List Variable) (F : Rows), F.Carries vs →
      Rows.Carries (vs ++ qs.flatMap (·.results)) fun V => qs.foldl (fun W q => W.bind (q.rows d r)) (F V) := by
    intro qs
    induction qs with
    | nil =>
      intro vs F hF
      rw [List.flatMap_nil, List.append_nil]
      exact hF
    | cons q qs ih =>
      intro vs F hF
      rw [List.flatMap_cons, ← List.append_assoc]
      exact ih _ _ (hF.comp (q.carries_rows d r))
  have hbind : (fun V : Multiset Solution => V.bind (plan.rows d r)) = fun V =>
      plan.searches.foldl (fun W q => W.bind (q.rows d r)) (join V (solutions (r.tripleSet d) plan.patterns)) :=
    funext fun V => bind_foldl _ plan.searches _ V
  rw [hbind]
  exact hfold plan.searches [] _ (.join (solutions (r.tripleSet d) plan.patterns))

end SearchPlan

/-- A path that cannot be empty is joined with its matches. -/
theorem GraphRef.pathRows_eq {q : PathPattern} (hq : q.path.nullable = false) (d : Dataset) (r : GraphRef)
    (s : Solution) :
    r.pathRows d q s = (q.matchesIn (r.triples d)).filterMap s.merge? := by
  rw [pathRows, Path.solutions_eq_matchesIn hq, ← q.filterMap_matchesIn_bind (r.triples d) s]
  rfl

/-- In an active graph that does not depend on the row a basic graph pattern is joined with its solutions there. -/
theorem Plan.means_bgp_of_activeGraph? (hP : ∀ s, P s → s.dataset = d) {ps : List TriplePattern}
    (hr : c.activeGraph? d = .ok (some r))
    (hanswered : ∀ qs ∈ lookedUp ps, ∀ r, c.Shows d r c.active → Answered P c.settings d r qs)
    (hb : c.settings.hints.batchSize < 2 ^ 64) (hsearch : ∀ p ∈ ps, SearchPlan.isSearchTriple p = false) :
    Plan.Means P False c (bgp ps) fun V =>
      (Solution.join V (solutions (r.tripleSet d) (ps.map HiddenVariable.replace))).map
        (HiddenVariable.hide (HiddenVariable.ofPatterns ps)) := by
  have hmeans := Plan.means_bgp hP (Scope.ne_error_of_activeGraph? hr) hanswered hb hsearch
  have hrows : (c.leafRows d).bgp c.active (ps.map HiddenVariable.replace) =
      r.bgpRows d (ps.map HiddenVariable.replace) :=
    funext fun s => Scope.find_of_activeGraph? hr (fun r => r.bgpRows d _) s
  rwa [hrows] at hmeans

/-- In an active graph that does not depend on the row a path finds what it finds there. -/
theorem Plan.means_path_of_activeGraph? (hP : ∀ s, P s → s.dataset = d) (q : PathPattern)
    (hr : c.activeGraph? d = .ok (some r)) :
    Plan.Means P False c (paths [q]) fun V =>
      (V.bind (r.pathRows d q.hide)).map (HiddenVariable.hide (HiddenVariable.ofSlots [q.subject, q.object])) := by
  have hmeans := Plan.means_path hP (x := q.subject) (y := q.object) (p := q.path) (Scope.ne_error_of_activeGraph? hr)
  have hrows : (c.leafRows d).path c.active q.hide = r.pathRows d q.hide :=
    funext fun s => Scope.find_of_activeGraph? hr (fun r => r.pathRows d _) s
  rwa [hrows] at hmeans

/-! ## Expressions without tests -/

variable {e : Expression} {ready : Expression.Ready}

/-- Without tests the rows are selected for which the expression is true. -/
theorem Rows.select_nil (hready : e.ready c.compiler = .ok ready) :
    Rows.select c.compiler e [] = Multiset.filter fun s => ready.accepts s = true := by
  funext V
  rw [Rows.select]
  refine Multiset.filter_congr fun s _ => ?_
  rw [isTrue, hready]
  rfl

/-- A steady expression that can be compiled does so without draws. -/
theorem Plan.Compiles.of_ready (he : e.isSteady = true) (hready : e.ready c.compiler = .ok ready) :
    Plan.Compiles False c e := by
  refine ⟨fun x hx => ?_, fun r hr => (Expression.ready_steady he hr).1⟩
  rw [hready] at hx
  cases hx

/-! ## Patterns -/

/-- A construction that cannot fail gives something. -/
theorem Build.Gives.exists_ok {α : Type} {Q : α → Prop} {b : Build α} (h : Build.Gives False st Q b) :
    ∃ a, b.run st = (.ok a, st) ∧ Q a := by
  unfold Gives at h
  rcases hb : b.run st with ⟨x | a, t⟩
  · rw [hb] at h
    exact h.2.elim
  · rw [hb] at h
    obtain ⟨rfl, ha⟩ := h
    exact ⟨a, rfl, ha⟩

namespace Pattern

/-- What is collected where the plan of a pattern is built over a source. -/
def solveOver (p : Pattern) (c : Scope) (st : Store) (source : Flow Solution) : Except QueryError (List Solution) :=
  ((p.plan c source >>= Plan.collect).run st).1

/-- What is collected for a single row. -/
def solve (p : Pattern) (c : Scope) (st : Store) (s : Solution) : Except QueryError (List Solution) :=
  p.solveOver c st (.ofList [s])

/-- Where a plan means rows and cannot fail, a list of rows is answered with the rows for this bag. -/
theorem exists_solveOver {F : Rows} {p : Pattern} (h : Plan.Means P False c p.plan F) (hst : P st)
    (rows : List Solution) :
    ∃ out : List Solution, p.solveOver c st (.ofList rows) = .ok out ∧ (out : Multiset Solution) = F rows :=
  Plan.exists_collected (h (.ofList rows) rows (fun _ _ => trivial) (.ofList rows) st hst) hst

/-- A plan that cannot fail has a list of rows for each row. -/
theorem exists_solve {F : Rows} {p : Pattern} (h : Plan.Means P False c p.plan F) (hst : P st) (s : Solution) :
    ∃ out : List Solution, p.solve c st s = .ok out ∧ (out : Multiset Solution) = F {s} :=
  exists_solveOver h hst [s]

/-- The variables that a pattern sets or removes in the rows that it is handed: those that stand for its blank nodes and
those that take the results of its searches. Within a projection nothing is handed on. -/
def overwrites : Pattern → List Variable
  | .bgp ps =>
    HiddenVariable.ofPatterns ps ++
      match SearchPlan.ofPatterns (ps.map HiddenVariable.replace) with
      | .ok plan => plan.results
      | .error _ => []
  | .path x _ y => HiddenVariable.ofSlots [x, y]
  | .join a b | .union a b => a.overwrites ++ b.overwrites
  | _ => []

/-- The patterns that join their rows with a bag: basic graph patterns whose searches are complete and do not number
their hits, paths that cannot be empty, tables, joins, unions and projections. -/
inductive Joins : Pattern → Prop
  | bgp {ps : List TriplePattern} : (SearchPlan.ofPatterns (ps.map HiddenVariable.replace)).isOk = true →
      SearchPlan.isUnranked ps = true → Joins (.bgp ps)
  | path {x y : Slot} {p : Path} : p.nullable = false → Joins (.path x p y)
  | values {vs : List Variable} {rows : List (List (Option Term))} : Joins (.values vs rows)
  | join {a b : Pattern} : Joins a → Joins b → Joins (.join a b)
  | union {a b : Pattern} : Joins a → Joins b → Joins (.union a b)
  | project {inner : Pattern} {vs : List Variable} : Joins inner → Joins (.project inner vs)

variable {p : Pattern}

/-- The plan of such a pattern stays within rows that may be merged with before or afterwards. -/
theorem Joins.exists_rows (hP : ∀ s, P s → s.dataset = d) (hp : p.Joins) (hr : c.activeGraph? d = .ok (some r))
    (hanswers : Answers P c d (p.touches c.active)) (hb : c.settings.hints.batchSize < 2 ^ 64) :
    ∃ F : Rows, Plan.Means P False c p.plan F ∧ F.Carries p.overwrites := by
  have hactive := Scope.ne_error_of_activeGraph? hr
  induction hp with
  | @bgp ps hok hunranked =>
    obtain ⟨plan, hplan⟩ : ∃ plan, SearchPlan.ofPatterns (ps.map HiddenVariable.replace) = .ok plan := by
      cases hsplit : SearchPlan.ofPatterns (ps.map HiddenVariable.replace) with
      | ok plan => exact ⟨plan, rfl⟩
      | error e =>
        rw [hsplit] at hok
        cases hok
    have hmeans := Plan.means_bgp_unranked hP hactive hplan hunranked hanswers.lookedUp hb
    simp only [Scope.find_of_activeGraph? hr] at hmeans
    refine ⟨_, by rw [Pattern.plan]; exact hmeans, ?_⟩
    rw [overwrites, hplan]
    exact (plan.carries_rows d r).hide _
  | @path x y p hnull =>
    have hmeans := Plan.means_path_of_activeGraph? hP ⟨x, p, y⟩ hr
    have hrows : (r.pathRows d (PathPattern.mk x p y).hide) = fun s =>
        ((PathPattern.mk x p y).hide.matchesIn (r.triples d)).filterMap s.merge? :=
      funext fun s => GraphRef.pathRows_eq hnull d r s
    rw [hrows] at hmeans
    refine ⟨_, by rw [Pattern.plan]; exact hmeans, ?_⟩
    have hjoined := (Rows.Carries.join ((PathPattern.mk x p y).hide.matchesIn (r.triples d))).hide
      (HiddenVariable.ofSlots [x, y])
    rw [List.append_nil] at hjoined
    rw [overwrites]
    exact hjoined
  | values =>
    refine ⟨_, by rw [Pattern.plan]; exact Plan.means_values _ _, ?_⟩
    exact .values _ _
  | join _ _ iha ihb =>
    rw [touches] at hanswers
    obtain ⟨A, ha, hA⟩ := iha hanswers.left
    obtain ⟨B, hb, hB⟩ := ihb hanswers.right
    refine ⟨_, by rw [Pattern.plan]; exact Plan.means_join ha .any hb, ?_⟩
    rw [overwrites]
    exact hA.comp hB
  | union _ _ iha ihb =>
    rw [touches] at hanswers
    obtain ⟨A, ha, hA⟩ := iha hanswers.left
    obtain ⟨B, hb, hB⟩ := ihb hanswers.right
    refine ⟨_, by rw [Pattern.plan]; exact Plan.means_union ha hb, ?_⟩
    rw [overwrites]
    exact hA.union hB
  | project _ ih =>
    rw [touches] at hanswers
    obtain ⟨F, hF, -⟩ := ih hanswers
    exact ⟨_, by rw [Pattern.plan]; exact Plan.means_project _ hF trivial, .project _ _⟩

end Pattern

end SparqlAlgebra
