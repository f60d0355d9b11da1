import SparqlAlgebra.Proofs.Algebra.Known
import SparqlAlgebra.Proofs.Plan.LeafScope
import SparqlAlgebra.Proofs.Plan.RowsGrouped
import SparqlAlgebra.Proofs.Plan.RowsSearched

/-!
# What the rows of patterns bind

Triples, paths and searches add bindings to a row and take none away, and what they add are variables of theirs, all of
them if no search is needed for it. The other ways to make rows hand on what is known, up to variables that are
optional, hidden or grouped.
-/

namespace SparqlAlgebra

open Solution

variable {c : Scope} {d : Dataset} {r : GraphRef} {k j : Known} {low high : Set Variable} {s t u : Solution}
  {A B C F : Rows} {Q R S : Solution → Prop}

/-! ## Rows that are extended -/

namespace Solution

/-- A row keeps what it binds, binds all variables of one set, and none but those of another. -/
structure Adds (low high : Set Variable) (s t : Solution) : Prop where
  /-- What was bound stays bound. -/
  keeps : ∀ v, s.binds v = true → t.binds v = true
  /-- All variables of the first set are bound. -/
  binds : ∀ v ∈ low, t.binds v = true
  /-- Only variables of the second set have been added. -/
  added : ∀ v, t.binds v = true → s.binds v = true ∨ v ∈ high

/-- What has been added stays when more is added. -/
theorem Adds.trans (h : Adds low high s t) (ht : Adds ∅ high t u) : Adds low high s u where
  keeps v hv := ht.keeps v (h.keeps v hv)
  binds v hv := ht.keeps v (h.binds v hv)
  added v hv := (ht.added v hv).elim (h.added v) .inr

/-- A solution with one more binding binds the variables that it bound, and the new one. -/
theorem binds_insert (s : Solution) (v : Variable) (x : Term) (w : Variable) :
    (s.insert v x).binds w = true ↔ s.binds w = true ∨ w = v := by
  rw [Solution.binds, get?_insert, Solution.binds]
  by_cases h : w = v <;> simp [h]

/-- A solution with one more binding adds its variable. -/
theorem adds_insert {v : Variable} (x : Term) (hv : v ∈ high) : Adds ∅ high s (s.insert v x) where
  keeps w hw := (binds_insert s v x w).2 (.inl hw)
  binds := nofun
  added w hw := ((binds_insert s v x w).1 hw).imp_right fun (h : w = v) => h ▸ hv

/-- A merge adds what the other solution binds. -/
theorem adds_merge? {m : Solution} (h : s.merge? m = some t) (hlow : ∀ v ∈ low, s.binds v = true ∨ m.binds v = true)
    (hhigh : m.BindsIn high) : Adds low high s t where
  keeps _ hv := (binds_of_merge? h).2 (.inl hv)
  binds v hv := (binds_of_merge? h).2 (hlow v hv)
  added v hv := ((binds_of_merge? h).1 hv).imp_right (hhigh v)

end Solution

/-! ## Leaves -/

/-- A row of a basic graph pattern binds all its variables and no others. -/
theorem GraphRef.adds_bgpRows {ps : List TriplePattern} (h : t ∈ r.bgpRows d ps s) :
    Adds (TriplePattern.varsOf ps) (TriplePattern.varsOf ps) s t := by
  obtain ⟨m, hm, hmerge⟩ := (Multiset.mem_filterMap _ _).1 h
  exact adds_merge? hmerge (fun v hv => .inr ((binds_of_mem_solutions hm).2 hv))
    fun v hv => (binds_of_mem_solutions hm).1 hv

/-- A hit adds the variables for its relevance and its rank. -/
theorem BoundSearch.adds_bindResults {q : BoundSearch} (x : Hit) (hq : SearchSetup.ResultsIn high q.relevance q.rank) :
    Adds ∅ high s (q.bindResults x s) := by
  have hranked : ∀ u : Solution, ∀ v, q.rank = some v → Adds ∅ high u (u.insert v (.literal (.ofInt x.rank))) :=
    fun u v hv => adds_insert _ (hq.rank_mem v hv)
  have hnone : ∀ u : Solution, Adds ∅ high u u := fun u => ⟨fun _ h => h, fun _ h => h.elim, fun _ h => .inl h⟩
  unfold bindResults
  cases hrelevance : q.relevance with
  | none =>
    dsimp only
    split
    · exact hranked s _ ‹_›
    · exact hnone s
  | some v =>
    have hrelevant :=
      adds_insert (s := s) (.literal (Numeric.double x.relevance).toLiteral) (hq.relevance_mem v hrelevance)
    dsimp only
    split
    · exact hrelevant.trans (hranked _ _ ‹_›)
    · exact hrelevant

/-- A row that a search finds binds no more than those and the variables of its pattern. -/
theorem BoundSearch.adds_rows {q : BoundSearch} (hpattern : ∀ v ∈ q.query.pattern.vars, v ∈ high)
    (hq : SearchSetup.ResultsIn high q.relevance q.rank) (h : t ∈ q.rows d r s) : Adds ∅ high s t := by
  obtain ⟨x, -, ht⟩ := (Multiset.mem_filterMap _ _).1 h
  obtain ⟨u, hu, rfl⟩ := Option.map_eq_some_iff.1 ht
  obtain ⟨m, hm, hmerge⟩ := Option.bind_eq_some_iff.1 hu
  have hfilled : ∀ v ∈ (q.patternFor s).vars, v ∈ high := fun v hv => hpattern v (TriplePattern.vars_bind _ _ v hv)
  exact (adds_merge? hmerge (fun _ hv => hv.elim) (TriplePattern.bindsIn_of_match? hfilled hm)).trans
    (adds_bindResults x hq)

/-- A row of a plan of searches binds all variables of the patterns that are joined. -/
theorem SearchPlan.adds_rows {plan : SearchPlan} {ps : List TriplePattern} (hplan : plan.In high ps)
    (hps : ∀ p ∈ ps, ∀ v ∈ p.vars, v ∈ high) (h : t ∈ plan.rows d r s) :
    Adds (TriplePattern.varsOf plan.patterns) high s t := by
  have hfold : ∀ (qs : List BoundSearch) (W : Multiset Solution), (∀ q ∈ qs, q ∈ plan.searches) →
      (∀ u ∈ W, Adds (TriplePattern.varsOf plan.patterns) high s u) →
      ∀ u ∈ qs.foldl (fun W q => W.bind (q.rows d r)) W, Adds (TriplePattern.varsOf plan.patterns) high s u := by
    intro qs
    induction qs with
    | nil => exact fun _ _ hW => hW
    | cons q qs ih =>
      intro W hqs hW
      obtain ⟨hq, hqs⟩ := List.forall_mem_cons.1 hqs
      refine ih _ hqs fun u hu => ?_
      obtain ⟨w, hw, hu⟩ := Multiset.mem_bind.1 hu
      exact (hW w hw).trans (BoundSearch.adds_rows (hps _ (hplan.searched q hq)) (hplan.results q hq) hu)
  refine hfold plan.searches _ (fun _ hq => hq) (fun u hu => ?_) t h
  have hjoined := GraphRef.adds_bgpRows hu
  refine ⟨hjoined.keeps, hjoined.binds, fun v hv => (hjoined.added v hv).imp_right ?_⟩
  rintro ⟨p, hp, hvp⟩
  exact hps p (hplan.patterns p hp) v hvp

/-- A solution of a path binds the variables at its ends. -/
theorem Path.binds_of_mem_solutions {ts : List Triple} {p : Path} {x y : Slot} {m : Solution}
    (h : m ∈ Path.solutions ts x p y) {v : Variable} (hv : x.var? = some v ∨ y.var? = some v) : m.binds v = true := by
  unfold solutions at h
  split at h
  · simp [Slot.var?] at hv
  · obtain ⟨e, -, rfl⟩ := List.mem_map.1 h
    refine (binds_insert _ _ _ v).2 (.inr ?_)
    simpa [Slot.var?, eq_comm] using hv
  · obtain ⟨e, -, rfl⟩ := List.mem_map.1 h
    refine (binds_insert _ _ _ v).2 (.inr ?_)
    simpa [Slot.var?, eq_comm] using hv
  · split at h
    · rename_i hvw
      obtain ⟨e, -, rfl⟩ := List.mem_map.1 h
      refine (binds_insert _ _ _ v).2 (.inr ?_)
      simpa [Slot.var?, hvw, eq_comm] using hv
    · obtain ⟨e, -, rfl⟩ := List.mem_map.1 h
      rw [binds_insert, binds_insert]
      simp only [Slot.var?, Option.some.injEq] at hv
      exact hv.elim (fun h => .inl (.inr h.symm)) fun h => .inr h.symm

/-- A row of a path binds them as well, and no others. -/
theorem GraphRef.adds_pathRows {q : PathPattern} (h : t ∈ r.pathRows d q s) :
    Adds {v | q.subject.var? = some v ∨ q.object.var? = some v} {v | q.subject.var? = some v ∨ q.object.var? = some v}
      s t := by
  obtain ⟨m, hm, hmerge⟩ := (Multiset.mem_filterMap _ _).1 h
  have hbound : ∀ {x : Slot} {v : Variable}, x.var? = some v → s.binds v = true ∨ (x.bind s).var? = some v := by
    intro x v hx
    cases x with
    | term t => cases hx
    | var w =>
      obtain rfl : w = v := by simpa [Slot.var?] using hx
      cases hs : s.get? w with
      | none => exact .inr (by simp [Slot.bind, hs, Slot.var?])
      | some t => exact .inl (binds_iff.2 ⟨t, hs⟩)
  refine adds_merge? hmerge (fun v hv => ?_) ?_
  · rcases hv with hv | hv
    · exact (hbound hv).imp_right fun hv => Path.binds_of_mem_solutions hm (.inl hv)
    · exact (hbound hv).imp_right fun hv => Path.binds_of_mem_solutions hm (.inr hv)
  · exact Path.bindsIn_of_mem_solutions (fun v hv => .inl (Slot.var?_of_bind hv))
      (fun v hv => .inr (Slot.var?_of_bind hv)) hm

/-- What is found for a row is found in a graph for it, or for the row with the name of the graph. -/
theorem Scope.exists_of_mem_find {f : GraphRef → Solution → Multiset Solution} {active : ActiveGraph}
    (h : t ∈ c.find d f s active) : ∃ r u, t ∈ f r u ∧ (u = s ∨ ∃ v x, active = .bound v ∧ u = s.insert v x) := by
  cases active with
  | default => exact ⟨_, s, h, .inl rfl⟩
  | named iri => exact ⟨_, s, h, .inl rfl⟩
  | union iris => exact ⟨_, s, h, .inl rfl⟩
  | bound v =>
    rw [find] at h
    split at h
    · split at h
      · exact ⟨_, s, h, .inl rfl⟩
      · exact absurd h (Multiset.notMem_zero t)
    · exact absurd h (Multiset.notMem_zero t)
    · obtain ⟨iri, -, h⟩ := Multiset.mem_bind.1 h
      exact ⟨_, _, h, .inr ⟨v, _, rfl, rfl⟩⟩

namespace Plan

/-- A leaf adds its variables to the rows, apart from those that it hides. -/
theorem keeps_leaf {f : GraphRef → Solution → Multiset Solution} {hidden : List Variable}
    (hf : ∀ r s, ∀ t ∈ f r s, Adds low high s t) (hbound : ∀ v, c.active = .bound v → k.enclosing = some v)
    (halways : ∀ v ∈ j.always, v ∉ hidden ∧ (v ∈ k.always ∨ v ∈ low))
    (hever : ∀ v, v ∈ k.ever ∨ k.enclosing = some v → v ∈ j.ever ∨ j.enclosing = some v)
    (hhigh : ∀ v ∈ high, v ∉ hidden → v ∈ j.ever) :
    Keeps k.Holds j.Holds fun V => (V.bind fun s => c.find d f s c.active).map (HiddenVariable.hide hidden) := by
  intro V hV u hu
  obtain ⟨t, ht, rfl⟩ := Multiset.mem_map.1 hu
  obtain ⟨s, hs, ht⟩ := Multiset.mem_bind.1 ht
  obtain ⟨r, w, ht, hw⟩ := Scope.exists_of_mem_find ht
  have hadds := hf r w t ht
  have hbinds : ∀ v, (HiddenVariable.hide hidden t).binds v = true ↔ v ∉ hidden ∧ t.binds v = true := by
    intro v
    rw [binds, HiddenVariable.get?_hide, binds]
    by_cases hv : v ∈ hidden <;> simp [hv]
  constructor
  · intro v hv
    obtain ⟨hshown, hv⟩ := halways v hv
    refine (hbinds v).2 ⟨hshown, hv.elim (fun hv => hadds.keeps v ?_) (hadds.binds v)⟩
    rcases hw with rfl | ⟨_, _, -, rfl⟩
    · exact (hV _ hs).always v hv
    · exact (binds_insert _ _ _ v).2 (.inl ((hV _ hs).always v hv))
  · intro v hv
    obtain ⟨hshown, hv⟩ := (hbinds v).1 hv
    rcases hadds.added v hv with hv | hv
    · rcases hw with rfl | ⟨g, _, hactive, rfl⟩
      · exact hever v ((hV _ hs).ever v hv)
      · rcases (binds_insert _ _ _ v).1 hv with hv | rfl
        · exact hever v ((hV _ hs).ever v hv)
        · exact hever v (.inr (hbound v hactive))
    · exact .inl (hhigh v hv hshown)

end Plan

/-! ## Other ways to make rows -/

/-- What is known of a row is known of a row with more bindings, apart from variables that may have been added. -/
theorem Known.Holds.adds (h : k.Holds s) (hadds : Adds low high s t) (halways : ∀ v ∈ j.always, v ∈ k.always ∨ v ∈ low)
    (hever : ∀ v, v ∈ k.ever ∨ k.enclosing = some v → v ∈ j.ever ∨ j.enclosing = some v)
    (hhigh : ∀ v ∈ high, v ∈ j.ever ∨ j.enclosing = some v) : j.Holds t where
  always v hv := (halways v hv).elim (fun hv => hadds.keeps v (h.always v hv)) (hadds.binds v)
  ever v hv := (hadds.added v hv).elim (fun hv => hever v (h.ever v hv)) (hhigh v)

/-- A filter adds no rows. -/
theorem Rows.mem_of_mem_filter {x : Expression.Compiler} {e : Expression} {tests : List Rows} {V : Multiset Solution}
    (h : s ∈ Rows.filter x e tests V) : s ∈ V := by
  unfold filter at h
  split at h <;> exact Multiset.mem_of_mem_filter h

namespace Plan

/-- What is kept may be weakened. -/
theorem Keeps.mono (h : Keeps Q R F) (hR : ∀ s, R s → S s) : Keeps Q S F := fun V hV s hs => hR s (h V hV s hs)

/-- What two steps keep is kept by both together. -/
theorem Keeps.comp (hA : Keeps Q R A) (hB : Keeps R S B) : Keeps Q S fun V => B (A V) := fun V hV => hB _ (hA V hV)

/-- Where rows are only left out, nothing changes. -/
theorem Keeps.of_mem (hA : Keeps Q R A) (hF : ∀ V, ∀ s ∈ F V, s ∈ A V) : Keeps Q R F :=
  fun V hV s hs => hA V hV s (hF V s hs)

/-- A union keeps what both parts keep. -/
theorem keeps_union (hA : Keeps Q R A) (hB : Keeps Q R B) : Keeps Q R (Rows.union A B) := by
  intro V hV t ht
  obtain ⟨s, hs, ht⟩ := Multiset.mem_bind.1 ht
  have hsingle := forall_mem_singleton_bag (hV s hs)
  exact (Multiset.mem_add.1 ht).elim (hA {s} hsingle t) (hB {s} hsingle t)

/-- An optional part keeps what both the rows without it and those with it have. -/
theorem keeps_leftJoin (hA : Keeps Q R A) (hB : Keeps R S B) (hC : ∀ V, ∀ s ∈ C V, s ∈ V) {T : Solution → Prop}
    (hR : ∀ s, R s → T s) (hS : ∀ s, S s → T s) : Keeps Q T (Rows.leftJoin A B C) := by
  intro V hV t ht
  obtain ⟨s, hs, ht⟩ := Multiset.mem_bind.1 ht
  have hleft : R s := hA V hV s hs
  split at ht
  · rw [Multiset.mem_singleton.1 ht]
    exact hR s hleft
  · exact hS t (hB {s} (forall_mem_singleton_bag hleft) t (hC _ t ht))

/-- Joined with a table, rows bind in addition what its rows bind. -/
theorem keeps_table {T : Multiset Solution} (low high : Set Variable) (hlow : ∀ m ∈ T, ∀ v ∈ low, m.binds v = true)
    (hhigh : ∀ m ∈ T, m.BindsIn high) (halways : ∀ v ∈ j.always, v ∈ k.always ∨ v ∈ low)
    (hever : ∀ v, v ∈ k.ever ∨ k.enclosing = some v → v ∈ j.ever ∨ j.enclosing = some v)
    (hadded : ∀ v ∈ high, v ∈ j.ever ∨ j.enclosing = some v) : Keeps k.Holds j.Holds fun V => Solution.join V T := by
  intro V hV t ht
  obtain ⟨s, hs, m, hm, hmerge⟩ := mem_join.1 ht
  have hadds : Adds low high s t := adds_merge? hmerge (fun v hv => .inr (hlow m hm v hv)) (hhigh m hm)
  exact (hV s hs).adds hadds halways hever hadded

/-- Binding a value adds its variable. -/
theorem adds_bindValue {v : Variable} {x : Option Value} (h : t ∈ bindValue s v x) : Adds ∅ {v} s t := by
  rcases eq_or_eq_insert_of_mem_bindValue h with rfl | ⟨y, rfl⟩
  · exact ⟨fun _ h => h, nofun, fun _ h => .inl h⟩
  · exact adds_insert y rfl

/-- After an extension the variable may be bound, and what was known is still known. -/
theorem keeps_extend {v : Variable} {x : Expression.Compiler} {e : Expression} {tests : List Rows}
    (hF : Keeps Q k.Holds F) (halways : ∀ w ∈ j.always, w ∈ k.always)
    (hever : ∀ w, w ∈ k.ever ∨ k.enclosing = some w → w ∈ j.ever ∨ j.enclosing = some w) (hv : v ∈ j.ever) :
    Keeps Q j.Holds (Rows.extend x v e tests F) := by
  intro V hV t ht
  obtain ⟨s, hs, ht⟩ := Multiset.mem_bind.1 ht
  refine (hF V hV s hs).adds (adds_bindValue (Multiset.mem_coe.1 ht)) (fun w hw => .inl (halways w hw)) hever ?_
  rintro w rfl
  exact .inl hv

end Plan

/-! ## Groups -/

/-- A solution made of bindings binds their variables. -/
theorem Solution.binds_ofList {bs : List (Variable × Term)} {v : Variable} (h : v ∈ bs.map (·.1)) :
    (ofList bs).binds v = true := by
  rw [binds, ofList, get?_foldl_insert, get?_empty, Option.or_none, Option.isSome_iff_ne_none, ne_eq,
    List.lookup_eq_none_iff]
  obtain ⟨b, hb, rfl⟩ := List.mem_map.1 h
  intro hnone
  simpa using hnone b (List.mem_reverse.2 hb)

namespace Group

variable {vs : List Variable} {as : List (Variable × ReadyAggregate)} {rows : List Solution} {v : Variable}

/-- Binding more variables takes no binding away. -/
theorem binds_bindAll (xs : List (Variable × Option Term)) (h : s.binds v = true) : (bindAll s xs).binds v = true := by
  induction xs generalizing s with
  | nil => exact h
  | cons x xs ih =>
    obtain ⟨w, x⟩ := x
    cases x with
    | none => exact ih h
    | some t => exact ih ((binds_insert s w t v).2 (.inl h))

/-- The solution of a group binds a key variable if its rows do. -/
theorem binds_solution {g : Group} (hs : s.binds v = true) (hv : v ∈ vs) (hg : g.key = keyOf vs s) :
    (g.solution vs).binds v = true := by
  obtain ⟨x, hx⟩ := binds_iff.1 hs
  have hzip : (v, some x) ∈ vs.zip g.key := by
    rw [hg, keyOf, ← hx]
    obtain ⟨i, hi, rfl⟩ := List.getElem_of_mem hv
    exact List.mem_iff_getElem.2 ⟨i, by simpa using hi, by simp⟩
  exact binds_ofList (List.mem_map.2 ⟨(v, x), List.mem_filterMap.2 ⟨_, hzip, rfl⟩, rfl⟩)

/-- The solution of a group still binds a key variable once the aggregates are added. -/
theorem binds_evaluate {g : Group} {seed : Nat} (hg : (g.solution vs).binds v = true)
    (h : g.evaluate vs [] as seed = .ok t) : t.binds v = true := by
  obtain ⟨values, -, ht⟩ := exists_of_bind_eq_ok h
  obtain ⟨x, hx⟩ := binds_iff.1 (binds_bindAll values hg)
  rw [← Except.ok.inj ht, binds, get?_filter]
  simp [hx]

/-- A row of a grouping comes from a group with this key. -/
theorem exists_of_mem_groupList (h : t ∈ Rows.groupList vs as rows) :
    ∃ g ∈ ofRows vs rows, g.evaluate vs [] as 0 = .ok t := by
  obtain ⟨g, hg, ht⟩ := List.mem_filterMap.1 h
  refine ⟨g, hg, ?_⟩
  cases he : g.evaluate vs [] as 0 with
  | error e => simp [he, Except.toOption] at ht
  | ok u => simpa [he, Except.toOption] using ht

/-- A key that all rows bind is bound by the solution of each group. -/
theorem binds_of_mem_groupList (hrows : ∀ s ∈ rows, s.binds v = true) (hv : v ∈ vs)
    (h : t ∈ Rows.groupList vs as rows) : t.binds v = true := by
  obtain ⟨g, hg, ht⟩ := exists_of_mem_groupList h
  rw [ofRows_eq] at hg
  obtain ⟨key, hkey, rfl⟩ := List.mem_map.1 hg
  obtain ⟨s, hs, rfl⟩ : ∃ s ∈ rows, keyOf vs s = key := by
    unfold keys at hkey
    split at hkey
    · rename_i hn
      rw [List.isEmpty_iff.1 hn] at hv
      cases hv
    · exact List.mem_map.1 (mem_firsts.1 hkey)
  exact binds_evaluate (binds_solution (hrows s hs) hv rfl) ht

end Group

namespace Plan

/-- After grouping the keys that all rows bind are bound, and only keys and aggregates may be. -/
theorem keeps_group {x : Expression.Compiler} {vs : List Variable} {as : List (Variable × Aggregate)}
    (hF : Keeps Q k.Holds F) (halways : ∀ v ∈ j.always, v ∈ k.always ∧ v ∈ vs)
    (hever : ∀ v ∈ vs ++ as.map (·.1), v ∈ j.ever) : Keeps Q j.Holds fun V => Rows.group x vs as (F V) := by
  intro V hV t ht
  have hrows : ∀ s ∈ (F V).toList, k.Holds s := fun s hs => hF V hV s (Multiset.mem_toList.1 hs)
  have ht : t ∈ Rows.groupList vs (Rows.aggregates x as) (F V).toList := Multiset.mem_coe.1 ht
  refine ⟨fun v hv => ?_, fun v hv => .inl ?_⟩
  · obtain ⟨hv, hkey⟩ := halways v hv
    exact Group.binds_of_mem_groupList (fun s hs => (hrows s hs).always v hv) hkey ht
  · obtain ⟨g, -, ht⟩ := Group.exists_of_mem_groupList ht
    have hin : t.BindsIn {v | v ∈ j.ever} := by
      refine bindsIn_evaluate (fun v hv => hever v (List.mem_append_left _ hv)) (fun v hv => ?_) ht
      refine hever v (List.mem_append_right _ ?_)
      obtain ⟨r, hr, rfl⟩ := List.mem_map.1 hv
      obtain ⟨a, ha, hready⟩ := List.mem_filterMap.1 hr
      obtain ⟨y, -, rfl⟩ := Option.map_eq_some_iff.1 hready
      exact List.mem_map_of_mem ha
    exact hin v hv

end Plan

/-! ## What is known after a pattern -/

namespace Pattern

variable {a b inner : Pattern} {v : Variable}

/-- A basic graph pattern with searches leaves what is known after it. -/
theorem keeps_bgp {ps : List TriplePattern} {plan : SearchPlan}
    (hplan : SearchPlan.ofPatterns (ps.map HiddenVariable.replace) = .ok plan)
    (hbound : ∀ v, c.active = .bound v → k.enclosing = some v) :
    Plan.Keeps k.Holds ((Pattern.bgp ps).after k).Holds fun V =>
      (V.bind fun s => c.find d (plan.rows d) s c.active).map (HiddenVariable.hide (HiddenVariable.ofPatterns ps)) := by
  have hreplaced : ∀ q ∈ ps.map HiddenVariable.replace, ∀ v ∈ q.vars,
      v ∈ TriplePattern.varsOf ps ∪ {v | v ∈ HiddenVariable.ofPatterns ps} :=
    List.forall_mem_map.2 fun p hp v hv => (HiddenVariable.vars_replace hp hv).imp_left fun hv => ⟨p, hp, hv⟩
  have hadds := fun r s t => SearchPlan.adds_rows (d := d) (r := r) (s := s) (t := t)
    (SearchPlan.in_ofPatterns hreplaced hplan) hreplaced
  refine Plan.keeps_leaf hadds hbound (fun v hv => ?_) (fun v hv => hv.imp_left (List.mem_append_left _))
    fun v hv hshown => ?_
  · rw [after, always, SearchPlan.joined, hplan] at hv
    rw [List.mem_filter, List.mem_append, List.mem_flatMap] at hv
    exact ⟨by simpa using hv.2, hv.1⟩
  · obtain ⟨p, hp, hv⟩ := hv.resolve_right hshown
    refine List.mem_append_right _ (List.mem_flatMap.2 ⟨p, hp, List.reduceOption_mem_iff.2 ?_⟩)
    rw [TriplePattern.mem_vars] at hv
    simpa [eq_comm] using hv

/-- A variable stays where no blank node is replaced. -/
theorem var?_replaceSlot_of_var? {x : Slot} (h : x.var? = some v) : (HiddenVariable.replaceSlot x).var? = some v := by
  cases x with
  | term t => cases h
  | var w => exact h

/-- A path keeps a variable if blank nodes do not stand for it. -/
theorem keeps_path {x y : Slot} {p : Path} (hbound : ∀ v, c.active = .bound v → k.enclosing = some v) :
    Plan.Keeps k.Holds ((Pattern.path x p y).after k).Holds fun V =>
      (V.bind fun s => c.find d (fun r => r.pathRows d (PathPattern.mk x p y).hide) s c.active).map
        (HiddenVariable.hide (HiddenVariable.ofSlots [x, y])) := by
  refine Plan.keeps_leaf (fun r s t => GraphRef.adds_pathRows) hbound (fun v hv => ?_)
    (fun v hv => hv.imp_left (List.mem_append_left _)) fun v hv hshown => ?_
  · rw [after, always, List.mem_filter, List.mem_append, List.reduceOption_mem_iff] at hv
    refine ⟨by simpa using hv.2, hv.1.imp_right fun hv => ?_⟩
    have hends : x.var? = some v ∨ y.var? = some v := by simpa [eq_comm] using hv
    exact hends.imp var?_replaceSlot_of_var? var?_replaceSlot_of_var?
  · have hx : x ∈ [x, y] := List.mem_cons_self
    have hy : y ∈ [x, y] := List.mem_cons_of_mem x (List.mem_singleton_self y)
    have hends : x.var? = some v ∨ y.var? = some v :=
      hv.imp (fun hv => (HiddenVariable.var?_replaceSlot hx hv).resolve_right hshown)
        fun hv => (HiddenVariable.var?_replaceSlot hy hv).resolve_right hshown
    refine List.mem_append_right _ (List.reduceOption_mem_iff.2 ?_)
    simpa [eq_comm] using hends

/-- A join leaves what is known after both parts. -/
theorem keeps_join (hA : Plan.Keeps Q (a.after k).Holds A)
    (hB : Plan.Keeps (a.after k).Holds (b.after (a.after k)).Holds B) :
    Plan.Keeps Q ((Pattern.join a b).after k).Holds fun V => B (A V) := by
  rw [after_join]
  exact hA.comp hB

/-- An optional part leaves what is known after the first part, and may bind more. -/
theorem keeps_leftJoin (e : Option Expression) (hA : Plan.Keeps k.Holds (a.after k).Holds A)
    (hB : Plan.Keeps (a.after k).Holds (b.after (a.after k)).Holds B) (hC : ∀ V, ∀ s ∈ C V, s ∈ V) :
    Plan.Keeps k.Holds ((Pattern.leftJoin a b e).after k).Holds (Rows.leftJoin A B C) := by
  have halways : ∀ v ∈ (Pattern.leftJoin a b e).always k.always,
      v ∈ a.always k.always ∧ v ∈ b.always (a.always k.always) := by
    intro v hv
    rw [always] at hv
    simpa using hv
  rw [← after_join] at hB
  exact Plan.keeps_leftJoin hA hB hC
    (fun s hs => after_mono hs (fun v hv => (halways v hv).1) (List.subset_append_left _ _))
    fun s hs => after_mono hs (fun v hv => (halways v hv).2) (List.Subset.refl _)

/-- A union leaves what is known after either part. -/
theorem keeps_union (hA : Plan.Keeps k.Holds (a.after k).Holds A) (hB : Plan.Keeps k.Holds (b.after k).Holds B) :
    Plan.Keeps k.Holds ((Pattern.union a b).after k).Holds (Rows.union A B) := by
  have halways : ∀ v ∈ (Pattern.union a b).always k.always, v ∈ a.always k.always ∧ v ∈ b.always k.always := by
    intro v hv
    rw [always] at hv
    simpa using hv
  exact Plan.keeps_union
    (hA.mono fun s hs => after_mono hs (fun v hv => (halways v hv).1) (List.subset_append_left _ _))
    (hB.mono fun s hs => after_mono hs (fun v hv => (halways v hv).2) (List.subset_append_right _ _))

/-- An extension leaves what is known after its pattern, and may bind its variable. -/
theorem keeps_extend {x : Expression.Compiler} {e : Expression} {tests : List Rows} (v : Variable)
    (hF : Plan.Keeps k.Holds (inner.after k).Holds F) :
    Plan.Keeps k.Holds ((Pattern.extend inner v e).after k).Holds (Rows.extend x v e tests F) := by
  refine Plan.keeps_extend hF (fun w hw => ?_) (fun w hw => hw.imp_left fun hw => ?_) ?_
  · rwa [after, always] at hw
  · simp only [after, scopeOccurrences, List.mem_append, List.mem_cons] at hw ⊢
    tauto
  · simp [after, scopeOccurrences]

/-- A table leaves its variables, of which those without a gap are bound. -/
theorem keeps_values (vs : List Variable) (rows : List (List (Option Term))) :
    Plan.Keeps k.Holds ((Pattern.values vs rows).after k).Holds (Rows.values vs rows) := by
  refine Plan.keeps_table {v | ∀ row ∈ rows, (Plan.rowSolution vs row).binds v = true} {v | v ∈ vs}
    (fun m hm v hv => ?_) (fun m hm v hv => ?_) (fun v hv => ?_) (fun v hv => hv.imp_left (List.mem_append_left _))
    fun v hv => .inl (List.mem_append_right _ hv)
  · obtain ⟨row, hrow, rfl⟩ := List.mem_map.1 (Multiset.mem_coe.1 hm)
    exact hv row hrow
  · obtain ⟨row, -, rfl⟩ := List.mem_map.1 (Multiset.mem_coe.1 hm)
    exact binds_rowSolution hv
  · rw [after, always, List.mem_append, List.mem_filter] at hv
    exact hv.imp_right fun hv => by simpa using hv.2

/-- A projection starts from the empty row, and leaves what it shows. -/
theorem keeps_project (vs : List Variable) (hF : Plan.Keeps k.fresh.Holds (inner.after k.fresh).Holds F) :
    Plan.Keeps k.Holds ((Pattern.project inner vs).after k).Holds (Rows.project vs F) := by
  have hinner := hF {Solution.empty} (Plan.forall_mem_singleton_bag Known.holds_empty)
  refine Plan.keeps_table {v | v ∈ vs ∧ v ∈ inner.always []} {v | v ∈ vs}
    (fun m hm v hv => ?_) (fun m hm => ?_) (fun v hv => ?_) (fun v hv => hv.imp_left (List.mem_append_left _))
    fun v hv => .inl (List.mem_append_right _ hv)
  · obtain ⟨n, hn, rfl⟩ := Multiset.mem_map.1 hm
    have hbinds := (hinner n hn).always v hv.2
    rw [binds] at hbinds ⊢
    rwa [get?_project, if_pos hv.1]
  · obtain ⟨n, -, rfl⟩ := Multiset.mem_map.1 hm
    exact bindsIn_project fun v hv => hv
  · rw [after, always, List.mem_append, List.mem_filter] at hv
    exact hv.imp_right fun hv => ⟨by simpa using hv.2, hv.1⟩

/-- A group leaves its keys and aggregates. -/
theorem keeps_group {x : Expression.Compiler} (vs : List Variable) (as : List (Variable × Aggregate))
    (hF : Plan.Keeps k.Holds (inner.after k).Holds F) :
    Plan.Keeps k.Holds ((Pattern.group inner vs as).after k).Holds fun V => Rows.group x vs as (F V) := by
  refine Plan.keeps_group hF (fun v hv => ?_) fun v hv => List.mem_append_right _ hv
  rw [after, always, List.mem_filter] at hv
  exact ⟨hv.1, by simpa using hv.2⟩

/-- The rows that do not exclude a graph, with its name. -/
theorem keeps_named (v : Variable) (iri : Iri) :
    Plan.Keeps k.Holds (k.within v).Holds fun V => Solution.join V {Solution.empty.insert v (.iri iri)} := by
  refine Plan.keeps_table {v} {v} (fun m hm w hw => ?_) (fun m hm => ?_) (fun w hw => ?_)
    (fun w hw => .inl ?_) fun w hw => .inr ?_
  · rw [Multiset.mem_singleton.1 hm, binds_insert]
    exact .inr hw
  · rw [Multiset.mem_singleton.1 hm]
    exact bindsIn_empty.insert rfl
  · exact (List.mem_cons.1 hw).symm
  · refine List.mem_append.2 (hw.symm.imp_left fun hw => ?_)
    rw [hw]
    exact List.mem_singleton_self w
  · exact congrArg some (Eq.symm hw)

/-- A graph that a variable names leaves what is known after its pattern inside. -/
theorem keeps_graph_var (hF : Plan.Keeps Q (inner.after (k.within v)).Holds F) :
    Plan.Keeps Q ((Pattern.graph (.var v) inner).after k).Holds F := by
  refine hF.mono fun s hs => hs.mono (fun w hw => ?_) fun w hw => ?_
  · rwa [after, always] at hw
  · simp only [after, Known.within, scopeOccurrences, IriSlot.var?, Option.toList_some, List.mem_append, List.mem_cons,
      List.not_mem_nil, or_false, Option.mem_toList, Option.some.injEq] at hw ⊢
    tauto

end Pattern

end SparqlAlgebra
