import SparqlAlgebra.Proofs.Plan.RowsSearched

/-!
# How basic graph patterns are split into patterns and searches

The triples about a search say which variable is searched, so there is one search for each of their subjects. Each
search takes one of the other patterns, and the patterns that are left are joined; together they are all of the other
patterns. Only the relevance and the rank go to variables.
-/

namespace SparqlAlgebra

namespace SearchSetup

variable {s s' : SearchSetup} {ss ss' : List SearchSetup} {t : TriplePattern} {ts ps : List TriplePattern} {i : Iri}
  {v : Variable} {plan : SearchPlan}

/-- Whether the results of a search go nowhere. -/
def TakesNothing (s : SearchSetup) : Prop := s.relevance = none ∧ s.rank = none

/-- What a literal says is not said by a variable. -/
theorem ne_var_of_literal {l : Literal} (h : literal t = .ok l) (v : Variable) : t.object ≠ .var v := by
  intro hv
  rw [literal, hv] at h
  cases h

/-- The object of a triple that gives a number is no variable. -/
theorem ne_var_of_number {α : Type} {read : String → Option α} {x : α} (h : number read t = .ok x) (v : Variable) :
    t.object ≠ .var v := by
  obtain ⟨l, hl, -⟩ := exists_of_bind_eq_ok h
  exact ne_var_of_literal hl v

/-- A setting that has been made is there. -/
theorem ne_none_of_once {α : Type} {present : Option α} {x : α} {y : Option α} (h : once present t x = .ok y) :
    y ≠ none := by
  unfold once at h
  split at h
  · cases h
  · rw [← Except.ok.inj h]
    exact nofun

/-- A triple leaves the searched variable as it is, and unless its object is a literal the search takes results. -/
theorem apply_spec (h : s.apply t i = .ok s') :
    s'.searched = s.searched ∧ (s'.TakesNothing → s.TakesNothing ∧ ∀ v, t.object ≠ .var v) := by
  unfold SearchSetup.apply at h
  split_ifs at h
  · obtain ⟨l, hl, h⟩ := exists_of_bind_eq_ok h
    obtain ⟨x, -, h⟩ := exists_of_bind_eq_ok h
    rw [← Except.ok.inj h]
    exact ⟨rfl, fun hs => ⟨hs, ne_var_of_literal hl⟩⟩
  · obtain ⟨l, hl, h⟩ := exists_of_bind_eq_ok h
    rw [← Except.ok.inj h]
    exact ⟨rfl, fun hs => ⟨hs, ne_var_of_literal hl⟩⟩
  · obtain ⟨y, hy, h⟩ := exists_of_bind_eq_ok h
    obtain ⟨x, -, h⟩ := exists_of_bind_eq_ok h
    rw [← Except.ok.inj h]
    exact ⟨rfl, fun hs => ⟨hs, ne_var_of_number hy⟩⟩
  · obtain ⟨y, hy, h⟩ := exists_of_bind_eq_ok h
    obtain ⟨x, -, h⟩ := exists_of_bind_eq_ok h
    rw [← Except.ok.inj h]
    exact ⟨rfl, fun hs => ⟨hs, ne_var_of_number hy⟩⟩
  · obtain ⟨y, hy, h⟩ := exists_of_bind_eq_ok h
    obtain ⟨x, -, h⟩ := exists_of_bind_eq_ok h
    rw [← Except.ok.inj h]
    exact ⟨rfl, fun hs => ⟨hs, ne_var_of_number hy⟩⟩
  · obtain ⟨y, hy, h⟩ := exists_of_bind_eq_ok h
    obtain ⟨x, -, h⟩ := exists_of_bind_eq_ok h
    rw [← Except.ok.inj h]
    exact ⟨rfl, fun hs => ⟨hs, ne_var_of_number hy⟩⟩
  · obtain ⟨y, -, h⟩ := exists_of_bind_eq_ok h
    obtain ⟨x, hx, h⟩ := exists_of_bind_eq_ok h
    rw [← Except.ok.inj h]
    exact ⟨rfl, fun hs => absurd hs.1 (ne_none_of_once hx)⟩
  · obtain ⟨y, -, h⟩ := exists_of_bind_eq_ok h
    obtain ⟨x, hx, h⟩ := exists_of_bind_eq_ok h
    rw [← Except.ok.inj h]
    exact ⟨rfl, fun hs => absurd hs.2 (ne_none_of_once hx)⟩

/-- A triple that sets up a search adds the variable that it searches. -/
theorem searched_applyTo (h : applyTo t i v ss = .ok ss') (w : Variable) :
    w ∈ ss'.map (·.searched) ↔ w ∈ ss.map (·.searched) ∨ w = v := by
  induction ss generalizing ss' with
  | nil =>
    obtain ⟨s, hs, h⟩ := exists_of_bind_eq_ok h
    rw [← Except.ok.inj h, List.map_singleton, List.mem_singleton, (apply_spec hs).1]
    simp [ofVariable]
  | cons s ss ih =>
    rw [applyTo] at h
    split at h
    · rename_i hv
      obtain ⟨u, hu, h⟩ := exists_of_bind_eq_ok h
      rw [← Except.ok.inj h, List.map_cons, List.map_cons, (apply_spec hu).1, hv]
      exact (or_iff_left_of_imp fun hw => List.mem_cons.2 (.inl hw)).symm
    · obtain ⟨us, hus, h⟩ := exists_of_bind_eq_ok h
      rw [← Except.ok.inj h, List.map_cons, List.map_cons, List.mem_cons, List.mem_cons, ih hus, or_assoc]

/-- If nothing is taken for results after a triple, nothing was before, and the triple has no variable as its object. -/
theorem takesNothing_applyTo (h : applyTo t i v ss = .ok ss') (hss : ∀ s ∈ ss', s.TakesNothing) :
    (∀ s ∈ ss, s.TakesNothing) ∧ ∀ w, t.object ≠ .var w := by
  induction ss generalizing ss' with
  | nil =>
    obtain ⟨s, hs, h⟩ := exists_of_bind_eq_ok h
    rw [← Except.ok.inj h, List.forall_mem_singleton] at hss
    exact ⟨List.forall_mem_nil _, ((apply_spec hs).2 hss).2⟩
  | cons s ss ih =>
    rw [applyTo] at h
    split at h
    · obtain ⟨u, hu, h⟩ := exists_of_bind_eq_ok h
      rw [← Except.ok.inj h, List.forall_mem_cons] at hss
      obtain ⟨hs, ht⟩ := (apply_spec hu).2 hss.1
      exact ⟨List.forall_mem_cons.2 ⟨hs, hss.2⟩, ht⟩
    · obtain ⟨us, hus, h⟩ := exists_of_bind_eq_ok h
      rw [← Except.ok.inj h, List.forall_mem_cons] at hss
      obtain ⟨hrest, ht⟩ := ih hus hss.2
      exact ⟨List.forall_mem_cons.2 ⟨hss.1, hrest⟩, ht⟩

/-- The subjects of the triples are searched. -/
theorem searched_ofTriples (h : ofTriples ts ss = .ok ss') (w : Variable) :
    w ∈ ss'.map (·.searched) ↔ w ∈ ss.map (·.searched) ∨ ∃ t ∈ ts, t.subject = .var w := by
  induction ts generalizing ss with
  | nil =>
    rw [← Except.ok.inj h]
    simp
  | cons t ts ih =>
    rw [ofTriples] at h
    split at h
    · rename_i v i hv _
      obtain ⟨us, hus, h⟩ := exists_of_bind_eq_ok h
      rw [ih h, searched_applyTo hus]
      simp [hv, or_assoc, eq_comm]
    · cases h

/-- If no search takes results, the objects of the triples are no variables. -/
theorem ne_var_of_ofTriples (h : ofTriples ts ss = .ok ss') (hss : ∀ s ∈ ss', s.TakesNothing) :
    (∀ s ∈ ss, s.TakesNothing) ∧ ∀ t ∈ ts, (∃ v, t.subject = .var v) ∧ ∀ v, t.object ≠ .var v := by
  induction ts generalizing ss with
  | nil =>
    rw [← Except.ok.inj h] at hss
    exact ⟨hss, List.forall_mem_nil _⟩
  | cons t ts ih =>
    rw [ofTriples] at h
    split at h
    · rename_i v i hv _
      obtain ⟨us, hus, h⟩ := exists_of_bind_eq_ok h
      obtain ⟨husNothing, hts⟩ := ih h
      obtain ⟨hs, ht⟩ := takesNothing_applyTo hus husNothing
      exact ⟨hs, List.forall_mem_cons.2 ⟨⟨⟨v, hv⟩, ht⟩, hts⟩⟩
    · cases h

/-- A setting becomes a search for its variable in the pattern, with its variables for the results. -/
theorem toSearch_eq {p : TriplePattern} {q : BoundSearch} (h : s.toSearch p = .ok q) :
    q.query.pattern = p ∧ q.query.searched = s.searched ∧ q.relevance = s.relevance ∧ q.rank = s.rank := by
  unfold toSearch at h
  split at h
  · obtain ⟨_, -, h⟩ := exists_of_bind_eq_ok h
    rw [← Except.ok.inj h]
    exact ⟨rfl, rfl, rfl, rfl⟩
  · cases h

/-- Each setup becomes a search and takes one of the patterns. -/
theorem takePatterns_spec (h : takePatterns ss ps = .ok plan) :
    ps.Perm (plan.patterns ++ plan.searches.map (·.query.pattern)) ∧
      plan.searches.map (fun q => (q.query.searched, q.relevance, q.rank)) =
        ss.map fun s => (s.searched, s.relevance, s.rank) := by
  induction ss generalizing ps plan with
  | nil =>
    rw [← Except.ok.inj h]
    exact ⟨by simp, rfl⟩
  | cons s ss ih =>
    rw [takePatterns] at h
    split at h
    · cases h
    · rename_i n hn
      obtain ⟨q, hq, h⟩ := exists_of_bind_eq_ok h
      obtain ⟨rest, hrest, h⟩ := exists_of_bind_eq_ok h
      rw [← Except.ok.inj h]
      obtain ⟨hperm, hsetups⟩ := ih hrest
      obtain ⟨hpattern, hsearched, hrelevance, hrank⟩ := toSearch_eq hq
      obtain ⟨hlt, -⟩ := List.findIdx?_eq_some_iff_getElem.1 hn
      rw [List.getElem?_eq_getElem hlt, Option.getD_some] at hpattern
      refine ⟨?_, by rw [List.map_cons, List.map_cons, hsetups, hsearched, hrelevance, hrank]⟩
      have htaken : (ps[n] :: ps.eraseIdx n).Perm ps := List.getElem_cons_eraseIdx_perm hlt
      rw [List.map_cons, hpattern]
      exact htaken.symm.trans ((hperm.cons _).trans List.perm_middle.symm)

end SearchSetup

namespace SearchPlan

variable {ps : List TriplePattern} {plan : SearchPlan}

/-- The triples that do not set up a search. -/
def others (ps : List TriplePattern) : List TriplePattern := ps.filter fun p => !isSearchTriple p

/-- Which setups a split is made of. -/
theorem exists_setups (h : ofPatterns ps = .ok plan) :
    ∃ ss, SearchSetup.ofTriples (ps.filter isSearchTriple) [] = .ok ss ∧
      SearchSetup.takePatterns ss (others ps) = .ok plan := by
  unfold ofPatterns at h
  rw [List.partition_eq_filter_filter] at h
  exact exists_of_bind_eq_ok h

/-- The patterns that are left and those that the searches have taken are all patterns that set up no search. -/
theorem others_perm (h : ofPatterns ps = .ok plan) :
    (others ps).Perm (plan.patterns ++ plan.searches.map (·.query.pattern)) := by
  obtain ⟨ss, -, htaken⟩ := exists_setups h
  exact (SearchSetup.takePatterns_spec htaken).1

/-- The searched variables are the subjects of the triples that set up a search. -/
theorem mem_searched_iff (h : ofPatterns ps = .ok plan) (v : Variable) :
    (∃ q ∈ plan.searches, q.query.searched = v) ↔ ∃ t ∈ ps, isSearchTriple t = true ∧ t.subject = .var v := by
  obtain ⟨ss, hss, htaken⟩ := exists_setups h
  have hsame : plan.searches.map (·.query.searched) = ss.map (·.searched) := by
    have hfst := congrArg (List.map Prod.fst) (SearchSetup.takePatterns_spec htaken).2
    rw [List.map_map, List.map_map] at hfst
    exact hfst
  have hmem := SearchSetup.searched_ofTriples hss v
  rw [List.map_nil, or_iff_right List.not_mem_nil] at hmem
  rw [← List.mem_map, hsame, hmem]
  simp [and_assoc]

/-- Triples that set up searches without results have a variable as their subject and none as their object. -/
theorem ne_var_of_search (h : ofPatterns ps = .ok plan) (hplain : ∀ q ∈ plan.searches, q.relevance = none ∧ q.rank = none)
    {t : TriplePattern} (ht : t ∈ ps) (hsearch : isSearchTriple t = true) :
    (∃ v, t.subject = .var v) ∧ ∀ v, t.object ≠ .var v := by
  obtain ⟨ss, hss, htaken⟩ := exists_setups h
  have hsame : plan.searches.map (fun q => (q.relevance, q.rank)) = ss.map fun s => (s.relevance, s.rank) := by
    have hsnd := congrArg (List.map Prod.snd) (SearchSetup.takePatterns_spec htaken).2
    rw [List.map_map, List.map_map] at hsnd
    exact hsnd
  have hnothing : ∀ s ∈ ss, s.TakesNothing := by
    intro s hs
    have hmem : (s.relevance, s.rank) ∈ ss.map fun s => (s.relevance, s.rank) := List.mem_map_of_mem hs
    rw [← hsame] at hmem
    obtain ⟨q, hq, heq⟩ := List.mem_map.1 hmem
    obtain ⟨hrelevance, hrank⟩ := Prod.mk.inj heq
    exact ⟨hrelevance ▸ (hplain q hq).1, hrank ▸ (hplain q hq).2⟩
  exact (SearchSetup.ne_var_of_ofTriples hss hnothing).2 t (List.mem_filter.2 ⟨ht, hsearch⟩)

end SearchPlan

end SparqlAlgebra
