import SparqlAlgebra.Proofs.Plan.FailingSource
import SparqlAlgebra.Proofs.Plan.SearchTriples

/-!
# Searches as filters

A search that neither numbers its hits nor hands out their relevance only selects: what a row finds in it is what the row
finds in the pattern that the search has taken, as long as the searched variable is bound to a text that is relevant.
Once the variable is bound this does not change anymore, so that it does not matter when the selection is made. A basic
graph pattern with such searches is a filter on the pattern without them.
-/

namespace SparqlAlgebra

open Solution Stage Join

variable {P : Store → Prop} {c : Scope} {d : Dataset} {r : GraphRef} {st : Store}

/-! ## A single search -/

namespace Search

variable {q : Search} {place : SearchPlace} {t : Triple} {m : Solution}

/-- The slot of a pattern at a place that is searched. -/
def slotAt (place : SearchPlace) (p : TriplePattern) : Slot :=
  match place with
  | .subject => p.subject
  | .object => p.object

/-- At the place of a search stands its variable. -/
theorem slotAt_of_place? (h : q.place? = some place) : slotAt place q.pattern = .var q.searched := by
  unfold place? at h
  split_ifs at h with hobject hsubject
  · obtain rfl := Option.some.inj h
    exact hobject
  · obtain rfl := Option.some.inj h
    exact hsubject

/-- Putting a row in at a place is putting it in at its slot. -/
theorem slotAt_bind (place : SearchPlace) (p : TriplePattern) (m : Solution) :
    slotAt place (p.bind m) = (slotAt place p).bind m := by
  cases place <;> rfl

/-- At a place of a triple stands its term. -/
theorem slotAt_ofTriple (place : SearchPlace) (t : Triple) : slotAt place (.ofTriple t) = .term (termAt place t) := by
  cases place <;> rfl

/-- The searched variable is one of the pattern. -/
theorem mem_vars_of_place? (h : q.place? = some place) : q.searched ∈ q.pattern.vars := by
  have hslot := congrArg Slot.var? (slotAt_of_place? h)
  rw [TriplePattern.mem_vars]
  cases place with
  | subject => exact .inl hslot
  | object => exact .inr (.inr hslot)

/-- A match binds the searched variable to the term whose text is searched. -/
theorem get?_of_place? (h : q.place? = some place) (hm : q.pattern.match? t = some m) :
    m.get? q.searched = some (termAt place t) := by
  have hbind := congrArg (slotAt place) (TriplePattern.match?_eq_some_iff.1 hm).1
  rw [slotAt_bind, slotAt_of_place? h, slotAt_ofTriple, Slot.bind] at hbind
  cases hv : m.get? q.searched with
  | none =>
    rw [hv] at hbind
    cases hbind
  | some u =>
    rw [hv] at hbind
    exact congrArg some (Slot.term.inj hbind)

end Search

namespace BoundSearch

variable {q : BoundSearch} {s u : Solution}

/-- Whether a search only selects: its hits have no numbers, and their relevance goes nowhere. -/
def OnlySelects (q : BoundSearch) : Prop := q.query.isRanked = false ∧ q.relevance = none ∧ q.rank = none

/-- Whether the searched variable is bound to an IRI or a literal with a relevant text. -/
def accepts (q : BoundSearch) (s : Solution) : Bool :=
  ((s.get? q.query.searched).bind Search.textOf?).any fun text => q.query.acceptsRelevance (q.query.relevance text)

/-- Once the searched variable is bound, other bindings do not matter. -/
theorem accepts_of_extends (hv : s.binds q.query.searched = true) (h : Extends u s) : q.accepts u = q.accepts s := by
  obtain ⟨t, ht⟩ := binds_iff.1 hv
  rw [accepts, accepts, ht, h _ t ht]

/-- A search that only selects binds no results. -/
theorem bindResults_eq_self (hq : q.OnlySelects) (h : Hit) (s : Solution) : q.bindResults h s = s := by
  rw [bindResults, hq.2.1, hq.2.2]

/-- A triple that matches is a hit if the row that it is merged with is accepted. -/
theorem score?_bind_match? {place : SearchPlace} (hq : q.OnlySelects) (hplace : q.query.place? = some place) (t : Triple)
    (s : Solution) :
    ((q.query.score? place t).bind fun x => ((q.query.pattern.match? x.triple).bind s.merge?).map (q.bindResults x)) =
      ((q.query.pattern.match? t).bind s.merge?).filter q.accepts := by
  have hset : ∀ x : Hit, q.bindResults x = id := fun x => funext (bindResults_eq_self hq x)
  have htriple : ((q.query.score? place t).bind fun x =>
        ((q.query.pattern.match? x.triple).bind s.merge?).map (q.bindResults x)) =
      (q.query.score? place t).bind fun _ => (q.query.pattern.match? t).bind s.merge? := by
    cases hscore : q.query.score? place t with
    | none => rfl
    | some x =>
      rw [Option.bind_some, Option.bind_some, triple_of_score? hscore, hset]
      exact Option.map_id_apply
  rw [htriple]
  cases hmerge : (q.query.pattern.match? t).bind s.merge? with
  | none => cases q.query.score? place t <;> rfl
  | some u =>
    obtain ⟨m, hm, hu⟩ := Option.bind_eq_some_iff.1 hmerge
    have hterm := (extends_of_merge? hu).2 _ _ (Search.get?_of_place? hplace hm)
    have haccepts : q.accepts u = ((Search.textOf? (Search.termAt place t)).any fun text =>
        q.query.acceptsRelevance (q.query.relevance text)) := by
      rw [accepts, hterm]
      rfl
    rw [Option.filter_some, haccepts]
    unfold Search.score?
    cases Search.textOf? (Search.termAt place t) with
    | none => rfl
    | some text =>
      rw [Option.bind_some, Option.any_some]
      dsimp only
      split <;> rfl

/-- What a row finds in a search is what it finds in its pattern, as far as that is accepted. -/
theorem rows_eq_filter (hq : q.OnlySelects) (hfault : q.query.fault? = none) (d : Dataset) (r : GraphRef)
    (s : Solution) :
    q.rows d r s = (r.bgpRows d [q.query.pattern] s).filter fun u => q.accepts u = true := by
  obtain ⟨-, -, -, place, hplace⟩ := Search.fault?_eq_none_iff.1 hfault
  have hmatches : r.bgpRows d [q.query.pattern] s =
      ((r.tripleSet d).filterMap fun t => (q.query.pattern.match? t).bind s.merge? : List Solution) := by
    rw [GraphRef.bgpRows, solutions_cons, solutions_nil, join_empty, TriplePattern.matchesIn, Multiset.filterMap_coe,
      List.filterMap_filterMap]
  rw [rows_eq, Search.hits, hfault, hplace, hmatches, Multiset.filter_coe, List.filter_filterMap]
  dsimp only
  rw [Multiset.filterMap_coe, List.filterMap_filterMap, List.filterMap_filter]
  refine congrArg _ (List.filterMap_congr fun t _ => ?_)
  rw [score?_bind_match? hq hplace]
  split
  · simp
  · rename_i hn
    cases hm : q.query.pattern.match? t with
    | none => rfl
    | some m => exact absurd (TriplePattern.isMatch_iff.2 ⟨m, hm⟩) hn

end BoundSearch

/-! ## All searches of a basic graph pattern -/

namespace GraphRef

variable {ps qs : List TriplePattern} {s u : Solution}

/-- The rows of a basic graph pattern do not depend on the order of its triple patterns. -/
theorem bgpRows_perm (d : Dataset) (r : GraphRef) (h : ps.Perm qs) : r.bgpRows d ps = r.bgpRows d qs := by
  funext s
  rw [bgpRows, bgpRows, solutions_perm _ h]

/-- Patterns may be found one part after the other. -/
theorem bgpRows_bind (d : Dataset) (r : GraphRef) (ps qs : List TriplePattern) (s : Solution) :
    (r.bgpRows d ps s).bind (r.bgpRows d qs) = r.bgpRows d (ps ++ qs) s := by
  rw [bgpRows, bgpRows, solutions_append, ← filterMap_join]
  rfl

/-- The rows of a basic graph pattern extend the row that they are found for. -/
theorem extends_of_mem_bgpRows (hu : u ∈ r.bgpRows d ps s) : Extends u s := by
  obtain ⟨m, -, hm⟩ := (Multiset.mem_filterMap _ _).1 hu
  exact (extends_of_merge? hm).1

/-- What is found binds the variables of the patterns. -/
theorem binds_of_mem_bgpRows {p : TriplePattern} {v : Variable} (hu : u ∈ r.bgpRows d ps s) (hp : p ∈ ps)
    (hv : v ∈ p.vars) : u.binds v = true := by
  obtain ⟨m, hm, hmerge⟩ := (Multiset.mem_filterMap _ _).1 hu
  exact (extends_of_merge? hmerge).2.binds ((binds_of_mem_solutions hm).2 ⟨p, hp, hv⟩)

end GraphRef

namespace SearchPlan

variable {plan : SearchPlan} {ps : List TriplePattern} {q : BoundSearch} {before qs : List BoundSearch}

/-- Whether all searches accept a row. -/
def accepts (qs : List BoundSearch) (s : Solution) : Bool := qs.all (·.accepts s)

/-- Whether the searches accept a row does not depend on further bindings. -/
theorem accepts_of_extends {s u : Solution} (hv : ∀ q ∈ qs, s.binds q.query.searched = true) (h : Extends u s) :
    accepts qs u = accepts qs s := by
  refine Bool.eq_iff_iff.2 ?_
  rw [accepts, accepts, List.all_eq_true, List.all_eq_true]
  exact forall₂_congr fun q hq => by rw [BoundSearch.accepts_of_extends (hv q hq) h]

/-- One more search extends the rows that have been selected, and selects among them. The earlier selections stay as
they are, because the variables that they look at are bound. -/
theorem bind_rows_filter (hbefore : ∀ q ∈ before, ∃ p ∈ ps, q.query.searched ∈ p.vars) (hq : q.OnlySelects)
    (hfault : q.query.fault? = none) (d : Dataset) (r : GraphRef) (s : Solution) :
    ((r.bgpRows d ps s).filter fun u => accepts before u = true).bind (q.rows d r) =
      (r.bgpRows d (ps ++ [q.query.pattern]) s).filter fun u => accepts (before ++ [q]) u = true := by
  rw [← GraphRef.bgpRows_bind, Multiset.filter_bind, Multiset.bind_filter]
  refine Multiset.bind_congr fun u hu => ?_
  have hboth : ∀ w ∈ r.bgpRows d [q.query.pattern] u,
      accepts (before ++ [q]) w = (accepts before u && q.accepts w) := by
    intro w hw
    have hbinds : ∀ p ∈ before, u.binds p.query.searched = true := fun p hp => by
      obtain ⟨t, ht, hv⟩ := hbefore p hp
      exact GraphRef.binds_of_mem_bgpRows hu ht hv
    rw [← accepts_of_extends hbinds (GraphRef.extends_of_mem_bgpRows hw)]
    simp [accepts]
  split
  · rename_i haccepted
    rw [BoundSearch.rows_eq_filter hq hfault]
    exact Multiset.filter_congr fun w hw => by rw [hboth w hw, haccepted, Bool.true_and]
  · rename_i hrefused
    refine (Multiset.filter_eq_nil.2 fun w hw => ?_).symm
    rw [hboth w hw, Bool.eq_false_iff.2 hrefused, Bool.false_and]
    exact Bool.false_ne_true

/-- All searches together select from what a row finds in the patterns that are left and in those that the searches
have taken. -/
theorem foldl_rows_eq_filter (hqs : ∀ q ∈ qs, q.OnlySelects ∧ q.query.fault? = none)
    (hbefore : ∀ q ∈ before, ∃ p ∈ ps, q.query.searched ∈ p.vars) (d : Dataset) (r : GraphRef) (s : Solution) :
    qs.foldl (fun W q => W.bind (q.rows d r)) ((r.bgpRows d ps s).filter fun u => accepts before u = true) =
      (r.bgpRows d (ps ++ qs.map (·.query.pattern)) s).filter fun u => accepts (before ++ qs) u = true := by
  induction qs generalizing ps before with
  | nil => rw [List.foldl_nil, List.map_nil, List.append_nil, List.append_nil]
  | cons q qs ih =>
    obtain ⟨hq, hqs⟩ := List.forall_mem_cons.1 hqs
    obtain ⟨-, -, -, place, hplace⟩ := Search.fault?_eq_none_iff.1 hq.2
    have hstep : ∀ p ∈ before ++ [q], ∃ t ∈ ps ++ [q.query.pattern], p.query.searched ∈ t.vars := by
      intro p hp
      rcases List.mem_append.1 hp with hp | hp
      · obtain ⟨t, ht, hv⟩ := hbefore p hp
        exact ⟨t, List.mem_append_left _ ht, hv⟩
      · rw [List.mem_singleton.1 hp]
        exact ⟨_, List.mem_append_right _ List.mem_cons_self, Search.mem_vars_of_place? hplace⟩
    rw [List.foldl_cons, bind_rows_filter hbefore hq.1 hq.2, ih hqs hstep, List.append_assoc, List.append_assoc]
    rfl

/-- What a row finds in patterns with searches is what it finds in the patterns without them, as far as the searches
accept it. -/
theorem rows_eq_filter (hplan : ofPatterns ps = .ok plan) (hselect : ∀ q ∈ plan.searches, q.OnlySelects) (d : Dataset)
    (r : GraphRef) (s : Solution) :
    plan.rows d r s = (r.bgpRows d (others ps) s).filter fun u => accepts plan.searches u = true := by
  have hall : ((r.bgpRows d plan.patterns s).filter fun u => accepts [] u = true) = r.bgpRows d plan.patterns s :=
    Multiset.filter_eq_self.2 fun _ _ => rfl
  have hnone : ∀ q ∈ ([] : List BoundSearch), ∃ p ∈ plan.patterns, q.query.searched ∈ p.vars :=
    List.forall_mem_nil _
  rw [rows, ← hall, foldl_rows_eq_filter (fun q hq => ⟨hselect q hq, fault?_of_ofPatterns hplan q hq⟩) hnone,
    List.nil_append, ← GraphRef.bgpRows_perm d r (others_perm hplan)]

end SearchPlan

/-- A selection from what is found is made in whatever graph is active. -/
theorem Scope.find_filter (c : Scope) (d : Dataset) (F : GraphRef → Solution → Multiset Solution)
    (accepts : Solution → Bool) (s : Solution) (active : ActiveGraph) :
    c.find d (fun r s => (F r s).filter fun u => accepts u = true) s active =
      (c.find d F s active).filter fun u => accepts u = true := by
  cases active with
  | default | named iri | union iris => rfl
  | bound v =>
    rw [find, find]
    cases s.get? v with
    | none => exact (Multiset.filter_bind _ _ _).symm
    | some t =>
      cases t with
      | iri iri =>
        dsimp only
        split <;> rfl
      | _ => rfl

/-- So what rows find in patterns with searches in the active graph is selected from what they find in the patterns
without them. -/
theorem SearchPlan.bind_find_rows {plan : SearchPlan} {ps : List TriplePattern} (hplan : ofPatterns ps = .ok plan)
    (hselect : ∀ q ∈ plan.searches, q.OnlySelects) (c : Scope) (d : Dataset) (V : Multiset Solution) :
    (V.bind fun s => c.find d (plan.rows d) s c.active) =
      (V.bind ((c.leafRows d).bgp c.active (others ps))).filter fun u => accepts plan.searches u = true := by
  rw [Multiset.filter_bind]
  refine Multiset.bind_congr fun s _ => ?_
  have hrows : plan.rows d = fun r s => (r.bgpRows d (others ps) s).filter fun u => accepts plan.searches u = true :=
    funext fun r => funext fun s => rows_eq_filter hplan hselect d r s
  rw [hrows, Scope.find_filter]
  rfl

/-! ## Blank nodes -/

namespace HiddenVariable

variable {ps : List TriplePattern}

/-- Once they have been replaced there are no blank nodes left to be replaced. -/
theorem replaceSlot_replaceSlot (x : Slot) : replaceSlot (replaceSlot x) = replaceSlot x := by
  cases x with
  | var v => rfl
  | term t => cases t <;> rfl

/-- There is no blank node left where it has been replaced. -/
theorem blank?_replaceSlot (x : Slot) : (replaceSlot x).blank? = none := by
  cases x with
  | var v => rfl
  | term t => cases t <;> rfl

/-- Replacing blank nodes twice changes nothing. -/
theorem map_replace_replace (ps : List TriplePattern) : (ps.map replace).map replace = ps.map replace := by
  rw [List.map_map]
  refine List.map_congr_left fun p _ => ?_
  rw [Function.comp_apply, replace, replace, replaceSlot_replaceSlot, replaceSlot_replaceSlot]

/-- Once blank nodes have been replaced, no variable stands for one. -/
theorem ofPatterns_map_replace (ps : List TriplePattern) : ofPatterns (ps.map replace) = [] := by
  rw [ofPatterns, ofSlots, List.filterMap_eq_nil_iff]
  intro x hx
  obtain ⟨p, hp, hx⟩ := List.mem_flatMap.1 hx
  obtain ⟨q, -, rfl⟩ := List.mem_map.1 hp
  rw [replace, List.mem_pair] at hx
  rcases hx with rfl | rfl <;> rw [blank?_replaceSlot] <;> rfl

/-- A blank node is replaced by the variable that stands for it. -/
theorem replaceSlot_of_blank? {x : Slot} {b : BlankNode} (h : x.blank? = some b) : replaceSlot x = .var (ofNode b) := by
  unfold Slot.blank? at h
  split at h
  · rw [Option.some.inj h]
    rfl
  · cases h

/-- The variables that stand for blank nodes are those of the blank nodes at the ends of the patterns. -/
theorem mem_ofPatterns {v : Variable} :
    v ∈ ofPatterns ps ↔ ∃ p ∈ ps, ∃ b, (p.subject.blank? = some b ∨ p.object.blank? = some b) ∧ ofNode b = v := by
  simp only [ofPatterns, ofSlots, List.mem_filterMap, List.mem_flatMap, List.mem_pair, Option.map_eq_some_iff]
  constructor
  · rintro ⟨x, ⟨p, hp, rfl | rfl⟩, b, hb, rfl⟩
    · exact ⟨p, hp, b, .inl hb, rfl⟩
    · exact ⟨p, hp, b, .inr hb, rfl⟩
  · rintro ⟨p, hp, b, hb | hb, rfl⟩
    · exact ⟨p.subject, ⟨p, hp, .inl rfl⟩, b, hb, rfl⟩
    · exact ⟨p.object, ⟨p, hp, .inr rfl⟩, b, hb, rfl⟩

/-- Which variables are hidden does not depend on how they are listed. -/
theorem hide_congr {vs ws : List Variable} (h : ∀ v, v ∈ vs ↔ v ∈ ws) : hide vs = hide ws := by
  funext s
  refine ext_get? fun v => ?_
  simp only [get?_hide, h]

end HiddenVariable

namespace SearchPlan

variable {ps : List TriplePattern} {plan : SearchPlan}

/-- Blank nodes do not make a triple part of a search. -/
theorem others_map_replace (ps : List TriplePattern) :
    others (ps.map HiddenVariable.replace) = (others ps).map HiddenVariable.replace := by
  rw [others, List.filter_map]
  rfl

/-- Searches without results have no blank nodes but those that they search. -/
theorem mem_ofPatterns_others (hplan : ofPatterns (ps.map HiddenVariable.replace) = .ok plan)
    (hselect : ∀ q ∈ plan.searches, q.OnlySelects)
    (hshown : ∀ q ∈ plan.searches, q.query.searched ∉ HiddenVariable.ofPatterns ps) (v : Variable) :
    v ∈ HiddenVariable.ofPatterns ps ↔ v ∈ HiddenVariable.ofPatterns (others ps) := by
  constructor
  · intro hv
    obtain ⟨p, hp, b, hb, rfl⟩ := HiddenVariable.mem_ofPatterns.1 hv
    by_cases hsearch : isSearchTriple p = true
    · have hmem : HiddenVariable.replace p ∈ ps.map HiddenVariable.replace := List.mem_map_of_mem hp
      obtain ⟨-, hobject⟩ := ne_var_of_search hplan (fun q hq => (hselect q hq).2) hmem hsearch
      rcases hb with hb | hb
      · have hsubject : (HiddenVariable.replace p).subject = .var (HiddenVariable.ofNode b) :=
          HiddenVariable.replaceSlot_of_blank? hb
        obtain ⟨q, hq, hsearched⟩ := (mem_searched_iff hplan _).2 ⟨_, hmem, hsearch, hsubject⟩
        exact absurd (hsearched ▸ hv) (hshown q hq)
      · exact absurd (HiddenVariable.replaceSlot_of_blank? hb) (hobject _)
    · exact HiddenVariable.mem_ofPatterns.2 ⟨p, List.mem_filter.2 ⟨hp, by simpa using hsearch⟩, b, hb, rfl⟩
  · intro hv
    obtain ⟨p, hp, h⟩ := HiddenVariable.mem_ofPatterns.1 hv
    exact HiddenVariable.mem_ofPatterns.2 ⟨p, (List.mem_filter.1 hp).1, h⟩

/-- Variables that are not searched may be hidden before the selection. -/
theorem accepts_hide {qs : List BoundSearch} {vs : List Variable} (h : ∀ q ∈ qs, q.query.searched ∉ vs) (s : Solution) :
    accepts qs (HiddenVariable.hide vs s) = accepts qs s := by
  refine Bool.eq_iff_iff.2 ?_
  rw [accepts, accepts, List.all_eq_true, List.all_eq_true]
  exact forall₂_congr fun q hq => by
    rw [BoundSearch.accepts, BoundSearch.accepts, HiddenVariable.get?_hide, if_neg (h q hq)]

/-- Selecting by other variables can be done before hiding some or after that. -/
theorem map_hide_filter {qs : List BoundSearch} {vs : List Variable} (h : ∀ q ∈ qs, q.query.searched ∉ vs)
    (V : Multiset Solution) :
    (V.filter fun u => accepts qs u = true).map (HiddenVariable.hide vs) =
      (V.map (HiddenVariable.hide vs)).filter fun u => accepts qs u = true := by
  rw [Multiset.filter_map]
  simp only [Function.comp_def, accepts_hide h]

end SearchPlan

/-- The same is looked up if the blank nodes have been replaced already. -/
theorem Plan.lookedUp_map_replace (ps : List TriplePattern) : lookedUp (ps.map HiddenVariable.replace) = lookedUp ps := by
  rw [lookedUp, lookedUp, HiddenVariable.map_replace_replace]

/-! ## Basic graph patterns with searches -/

namespace Plan

open Build

/-- A graph that does not exist is an error before anything else is done. -/
theorem run_bgp_of_error {ps : List TriplePattern} {plan : SearchPlan} {e : QueryError}
    (hplan : SearchPlan.ofPatterns (ps.map HiddenVariable.replace) = .ok plan)
    (he : c.activeGraph? st.dataset = .error e) (source : Flow Solution) :
    (bgp ps c source).run st = (.error e, st) := by
  have hactive : ∀ evaluate, (c.onActiveGraph source evaluate).run st = (.error e, st) := by
    intro evaluate
    rw [Scope.onActiveGraph, run_bind_ok (run_get st), he]
    rfl
  rw [bgp, hplan]
  dsimp only
  rw [run_bind, hactive]

/-- Each row of a source finds what it finds in the active graph without the searches, as far as they accept it. -/
theorem means_bgp_selected (hP : ∀ s, P s → s.dataset = d) {ps : List TriplePattern} {plan : SearchPlan}
    {mayFail : Prop} (hactive : ∀ e, c.activeGraph? d = .error e → mayFail)
    (hplan : SearchPlan.ofPatterns (ps.map HiddenVariable.replace) = .ok plan)
    (hselect : ∀ q ∈ plan.searches, q.OnlySelects)
    (hanswered : ∀ qs ∈ lookedUp ps, ∀ r, c.Shows d r c.active → Answered P c.settings d r qs)
    (hb : c.settings.hints.batchSize < 2 ^ 64) :
    Means P mayFail c (bgp ps) fun V =>
      ((V.bind ((c.leafRows d).bgp c.active ((SearchPlan.others ps).map HiddenVariable.replace))).filter fun u =>
        SearchPlan.accepts plan.searches u = true).map (HiddenVariable.hide (HiddenVariable.ofPatterns ps)) := by
  have hunranked : SearchPlan.isUnranked ps = true := by
    rw [SearchPlan.isUnranked, hplan]
    simpa using fun q hq => (hselect q hq).1
  have hmeans := means_bgp_unranked hP hactive hplan hunranked hanswered hb
  simp only [SearchPlan.bind_find_rows hplan hselect, SearchPlan.others_map_replace] at hmeans
  exact hmeans

end Plan

namespace Pattern

variable {ps : List TriplePattern} {plan : SearchPlan}

/-- A basic graph pattern with searches that only select, and the pattern without the triples that set them up. Over a
list of rows it finds, as often, those solutions of the pattern without searches that all searches accept: the term of
each searched variable has a relevant text. Blank nodes may be searched as well; then the solutions are selected before
the variables that stand for blank nodes are hidden. If the active graph does not exist, this is the error of both. Over
a source with a failure both fail. If kept solutions are used, they have to be those of the look-ups. -/
theorem searches_filter_bgp (hplan : SearchPlan.ofPatterns (ps.map HiddenVariable.replace) = .ok plan)
    (hselect : ∀ q ∈ plan.searches, q.OnlySelects) (hbatch : c.settings.hints.batchSize < 2 ^ 64)
    (hkept : c.settings.hints.useCache = true → st.cache = none ∨
      ToldApart st.dataset
          (c.lookups st.dataset ((Pattern.join (.bgp ps) (.bgp (SearchPlan.others ps))).touches c.active)) ∧
        ∀ e ∈ st.kept, Current st.dataset
          (c.lookups st.dataset ((Pattern.join (.bgp ps) (.bgp (SearchPlan.others ps))).touches c.active)) e) :
    ((∀ e, c.activeGraph? st.dataset ≠ .error e) → ∀ rows : List Solution, ∃ found shown all : List Solution,
      (Pattern.bgp ps).solveOver c st (.ofList rows) = .ok found ∧
      (Pattern.bgp ((SearchPlan.others ps).map HiddenVariable.replace)).solveOver c st (.ofList rows) = .ok shown ∧
      (Pattern.bgp (SearchPlan.others ps)).solveOver c st (.ofList rows) = .ok all ∧
      found.Perm ((shown.filter (SearchPlan.accepts plan.searches)).map
        (HiddenVariable.hide (HiddenVariable.ofPatterns ps))) ∧
      ((∀ q ∈ plan.searches, q.query.searched ∉ HiddenVariable.ofPatterns ps) →
        found.Perm (all.filter (SearchPlan.accepts plan.searches)))) ∧
    (∀ e, c.activeGraph? st.dataset = .error e → ∀ source,
      (Pattern.bgp ps).solveOver c st source = .error e ∧
      (Pattern.bgp (SearchPlan.others ps)).solveOver c st source = .error e) ∧
    ∀ (items : List (Except QueryError Solution)) (e : QueryError), .error e ∈ items → ∃ e₁ e₂,
      (Pattern.bgp ps).solveOver c st (.ofItems items) = .error e₁ ∧
      (Pattern.bgp (SearchPlan.others ps)).solveOver c st (.ofItems items) = .error e₂ := by
  obtain ⟨P, hst, hP, hanswers⟩ := exists_answers_of_used hkept
  rw [touches] at hanswers
  have hothers : ∀ p ∈ SearchPlan.others ps, SearchPlan.isSearchTriple p = false := fun p hp => by
    simpa using (List.mem_filter.1 hp).2
  have hreplaced : ∀ p ∈ (SearchPlan.others ps).map HiddenVariable.replace, SearchPlan.isSearchTriple p = false := by
    intro p hp
    obtain ⟨q, hq, rfl⟩ := List.mem_map.1 hp
    exact hothers q hq
  refine ⟨fun hactive rows => ?_, fun e he source => ?_, fun items e he => ?_⟩
  · have hanswered := hanswers.right.lookedUp
    obtain ⟨found, hf, hfM⟩ := exists_solveOver (p := .bgp ps)
      (by rw [Pattern.plan]; exact Plan.means_bgp_selected hP hactive hplan hselect hanswers.left.lookedUp hbatch) hst rows
    obtain ⟨all, ha, haM⟩ := exists_solveOver (p := .bgp (SearchPlan.others ps))
      (by rw [Pattern.plan]; exact Plan.means_bgp hP hactive hanswered hbatch hothers) hst rows
    rw [← Plan.lookedUp_map_replace] at hanswered
    obtain ⟨shown, hs, hsM⟩ := exists_solveOver (p := .bgp ((SearchPlan.others ps).map HiddenVariable.replace))
      (by rw [Pattern.plan]; exact Plan.means_bgp hP hactive hanswered hbatch hreplaced) hst rows
    refine ⟨found, shown, all, hf, hs, ha, ?_, fun hvisible => ?_⟩
    · rw [HiddenVariable.ofPatterns_map_replace, HiddenVariable.map_replace_replace,
        Multiset.map_congr rfl fun s _ => HiddenVariable.hide_nil s, Multiset.map_id'] at hsM
      rw [← hsM, Multiset.filter_coe, Multiset.map_coe, Multiset.coe_eq_coe] at hfM
      simpa using hfM
    · have hsame := SearchPlan.mem_ofPatterns_others hplan hselect hvisible
      have hothersVisible : ∀ q ∈ plan.searches, q.query.searched ∉ HiddenVariable.ofPatterns (SearchPlan.others ps) :=
        fun q hq hv => hvisible q hq ((hsame _).2 hv)
      rw [HiddenVariable.hide_congr hsame, SearchPlan.map_hide_filter hothersVisible, ← haM, Multiset.filter_coe,
        Multiset.coe_eq_coe] at hfM
      simpa using hfM
  · rw [solveOver, solveOver, Pattern.plan, Pattern.plan, Build.run_bind, Build.run_bind,
      Plan.run_bgp_of_error hplan he, Plan.run_bgp_of_error (Delivers.ofPatterns_eq hreplaced) he]
    exact ⟨rfl, rfl⟩
  · have hfails : Fails (fun _ => True) (Stage.ofItems items : Flow Solution) := fails_ofItems he
    obtain ⟨e₁, h₁⟩ := exists_error_bgp ps c st hfails
    obtain ⟨e₂, h₂⟩ := exists_error_bgp (SearchPlan.others ps) c st hfails
    exact ⟨e₁, e₂, h₁, h₂⟩

/-- A search for cats, of which one is an IRI: the dog is found by the pattern, and is not accepted. -/
theorem searches_filter_bgp_cats :
    let likes : Iri := ⟨"http://example.com/likes"⟩
    let x : Variable := ⟨"x"⟩
    let y : Variable := ⟨"y"⟩
    let alice : Iri := ⟨"http://example.com/a"⟩
    let cat : Term := .literal (.string "a black cat")
    let tom : Term := .iri ⟨"http://example.com/cat"⟩
    let dog : Term := .literal (.string "a black dog")
    let graph : Graph := (((Graph.empty defaultGraphIri ⟨true, true⟩).insert ⟨.iri alice, likes, cat⟩).insert
      ⟨.iri alice, likes, dog⟩).insert ⟨.iri alice, likes, tom⟩
    let st : Store := ⟨⟨graph, [], fun _ => ⟨true, true⟩⟩, none, 0⟩
    let c : Scope := ⟨⟨.streaming, ⟨2, .structural, true⟩⟩, ⟨[], cat⟩, .default, none⟩
    let ps : List TriplePattern :=
      [⟨.var x, .iri likes, .var y⟩, ⟨.var y, .iri SearchVocabulary.search, .term (.literal (.string "cat"))⟩]
    let search : BoundSearch :=
      ⟨⟨⟨.var x, .iri likes, .var y⟩, y, ["cat"], false, none, none, none, none⟩, none, none⟩
    let row : Term → Solution := fun t => (Solution.empty.insert x (.iri alice)).insert y t
    SearchPlan.ofPatterns (ps.map HiddenVariable.replace) = .ok ⟨[], [search]⟩ ∧ search.OnlySelects ∧
      c.settings.hints.batchSize < 2 ^ 64 ∧
      (c.settings.hints.useCache = true → st.cache = none ∨
        ToldApart st.dataset
            (c.lookups st.dataset ((Pattern.join (.bgp ps) (.bgp (SearchPlan.others ps))).touches c.active)) ∧
          ∀ e ∈ st.kept, Current st.dataset
            (c.lookups st.dataset ((Pattern.join (.bgp ps) (.bgp (SearchPlan.others ps))).touches c.active)) e) ∧
      (Pattern.bgp (SearchPlan.others ps)).solveOver c st (.ofList [.empty]) = .ok [row cat, row dog, row tom] ∧
      ∃ found, (Pattern.bgp ps).solveOver c st (.ofList [.empty]) = .ok found ∧ found.Perm [row cat, row tom] := by
  intro likes x y alice cat tom dog graph st c ps search row
  have hplan : SearchPlan.ofPatterns (ps.map HiddenVariable.replace) = .ok ⟨[], [search]⟩ := by decide +kernel
  have hselect : search.OnlySelects := ⟨rfl, rfl, rfl⟩
  have hbatch : c.settings.hints.batchSize < 2 ^ 64 := by decide
  have hkept : c.settings.hints.useCache = true → st.cache = none ∨
      ToldApart st.dataset
          (c.lookups st.dataset ((Pattern.join (.bgp ps) (.bgp (SearchPlan.others ps))).touches c.active)) ∧
        ∀ e ∈ st.kept, Current st.dataset
          (c.lookups st.dataset ((Pattern.join (.bgp ps) (.bgp (SearchPlan.others ps))).touches c.active)) e :=
    fun _ => .inl rfl
  have hall : (Pattern.bgp (SearchPlan.others ps)).solveOver c st (.ofList [.empty]) =
      .ok [row cat, row dog, row tom] := by decide +kernel
  refine ⟨hplan, hselect, hbatch, hkept, hall, ?_⟩
  obtain ⟨found, -, all, hfound, -, hothers, -, hperm⟩ :=
    (searches_filter_bgp hplan (List.forall_mem_singleton.2 hselect) hbatch hkept).1 nofun [.empty]
  rw [hall] at hothers
  obtain rfl := Except.ok.inj hothers
  refine ⟨found, hfound, (hperm (List.forall_mem_singleton.2 (by decide))).trans ?_⟩
  have haccepted : [row cat, row dog, row tom].filter (SearchPlan.accepts [search]) = [row cat, row tom] := by
    decide +kernel
  rw [haccepted]

end Pattern

end SparqlAlgebra
