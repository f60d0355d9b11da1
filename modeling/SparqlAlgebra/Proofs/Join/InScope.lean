import SparqlAlgebra.Proofs.Join.Kept
import SparqlAlgebra.Proofs.Join.Marker
import SparqlAlgebra.Proofs.Solution.BindsIn
import SparqlAlgebra.Proofs.Stage.Only
import SparqlAlgebra.Proofs.Text.Patterns

/-!
# Joins bind no other variables

What a join delivers binds the variables of its source and those of its patterns. In a batch the variables carry
markers, which are all taken off again: whatever a marked name is read back as, it is the name that was marked.
-/

namespace SparqlAlgebra

open Solution Stage

variable {P : Store → Prop} {W : Set Variable} {r : GraphRef} {c : Settings} {g : Engine} {p : TriplePattern}
  {ps : List TriplePattern} {source : Flow Solution}

namespace Marker

variable {i j : Nat} {v w : Variable} {m u : Solution}

/-- A name that can be read back is the one that was marked. -/
theorem eq_of_unmark?_mark (h : unmark? (mark i v) = some (w, j)) : w = v := by
  obtain ⟨ds, hsplit, hds, -⟩ := unmark?_eq_some_iff.1 h
  have hw := splitAtLast_append w.name.toList (hds.notMem rfl (by decide))
  rw [← hsplit, toList_mark, splitAtLast_append _ Nat.underscore_not_in_toDigits] at hw
  exact eq_of_name_eq (String.toList_inj.1 (congrArg Prod.fst (Option.some.inj hw)).symm)

/-- The variables of a set, each with some marker. -/
def marked (W : Set Variable) : Set Variable := {x | ∃ i, ∃ v ∈ W, x = mark i v}

/-- Without the markers a solution binds the variables that were marked. -/
theorem bindsIn_of_unmarkSolution? (hm : m.BindsIn (marked W)) (h : unmarkSolution? m = some (i, u)) :
    u.BindsIn W := by
  obtain ⟨-, hcarries, rfl⟩ := unmarkSolution?_eq_some_iff.1 h
  refine bindsIn_ofList (List.forall_mem_map.2 fun e he => ?_)
  have hbinds : m.binds e.1 = true := binds_iff.2 ⟨e.2, get?_eq_some_iff.2 he⟩
  obtain ⟨k, v, hv, hmark⟩ := hm e.1 hbinds
  obtain ⟨w, hw⟩ := carries_iff.1 (hcarries e.1 hbinds)
  rw [bare, hw]
  rw [hmark] at hw
  exact eq_of_unmark?_mark hw ▸ hv

/-- Marked patterns have marked variables. -/
theorem vars_markPattern (hp : ∀ v ∈ p.vars, v ∈ W) : ∀ x ∈ (markPattern i p).vars, x ∈ marked W := by
  have hslot : ∀ (y : Slot) (x : Variable), (markSlot i y).var? = some x → ∃ v, y.var? = some v ∧ x = mark i v := by
    intro y x hx
    cases y with
    | term t => cases hx
    | var v => exact ⟨v, rfl, (Option.some.inj hx).symm⟩
  have hiri : ∀ (y : IriSlot) (x : Variable), (markIriSlot i y).var? = some x → ∃ v, y.var? = some v ∧ x = mark i v := by
    intro y x hx
    cases y with
    | iri n => cases hx
    | var v => exact ⟨v, rfl, (Option.some.inj hx).symm⟩
  intro x hx
  rw [TriplePattern.mem_vars] at hx
  rcases hx with hx | hx | hx
  · obtain ⟨v, hv, rfl⟩ := hslot _ _ hx
    exact ⟨i, v, hp v (TriplePattern.mem_vars.2 (.inl hv)), rfl⟩
  · obtain ⟨v, hv, rfl⟩ := hiri _ _ hx
    exact ⟨i, v, hp v (TriplePattern.mem_vars.2 (.inr (.inl hv))), rfl⟩
  · obtain ⟨v, hv, rfl⟩ := hslot _ _ hx
    exact ⟨i, v, hp v (TriplePattern.mem_vars.2 (.inr (.inr hv))), rfl⟩

end Marker

namespace GraphRef

mutual

/-- Looking up a pattern keeps every invariant. -/
theorem only_find (g : Engine) (p : TriplePattern) : (r : GraphRef) → Only P (fun _ => True) (r.find g p)
  | .single _ => .read fun _ _ => .ofList fun _ _ => trivial
  | .union members => g.only_distinct id (g.only_merge (only_findAll g p members))

/-- Triples are found one after the other, without any change. -/
theorem only_findAll (g : Engine) (p : TriplePattern) :
    (ms : List GraphRef) → ∀ f ∈ findAll g p ms, Only P (fun _ => True) f
  | [], _, hf => nomatch hf
  | m :: ms, f, hf => by
    rcases List.mem_cons.1 hf with rfl | hf
    · exact only_find g p m
    · exact only_findAll g p ms f hf

end

end GraphRef

/-- The variables of some patterns. -/
def TriplePattern.varsOf (ps : List TriplePattern) : Set Variable := {v | ∃ p ∈ ps, v ∈ p.vars}

open TriplePattern (varsOf)

/-- Every entry has been kept for some patterns and has solutions that bind their variables. -/
def Store.KeptInScope (st : Store) : Prop :=
  ∀ e ∈ st.kept, ∃ graph ps, (∀ p ∈ ps, p.isUnbroken = true) ∧ e.1 = .ofPatterns graph ps ∧
    Each (BindsIn (varsOf ps)) e.2

namespace Store.KeptInScope

variable {s : Store} {k : Cache} {graph : Iri} {ss : List Solution}

/-- The solutions that have been kept for some patterns bind only their variables. -/
theorem of_get? (h : s.KeptInScope) (hps : ∀ p ∈ ps, p.isUnbroken = true) (hk : s.cache = some k)
    (hfound : k.get? graph ps = some ss) : Each (BindsIn (varsOf ps)) ss := by
  have hmem : (.ofPatterns graph ps, ss) ∈ s.kept := by
    rw [Store.kept, hk]
    exact Cache.mem_entries_of_get? hfound
  obtain ⟨g, qs, hqs, hkey, hss⟩ := h _ hmem
  obtain rfl := CacheKey.patterns_injective hps hqs (congrArg CacheKey.patterns hkey)
  exact hss

/-- Keeping such solutions leaves it so. -/
theorem keep (h : s.KeptInScope) (hps : ∀ p ∈ ps, p.isUnbroken = true) (hss : Each (BindsIn (varsOf ps)) ss) :
    Store.KeptInScope { s with cache := s.cache.map fun k => k.insert graph ps ss } := by
  intro e he
  cases hk : s.cache with
  | none => simp [Store.kept, hk] at he
  | some k =>
    have hmem : e ∈ (k.insert graph ps ss).entries := by simpa [Store.kept, hk] using he
    rcases Cache.mem_entries_insert hmem with hold | rfl
    · exact h e (by simpa [Store.kept, hk] using hold)
    · exact ⟨graph, ps, hps, rfl, hss⟩

end Store.KeptInScope

namespace Join

/-- Joined with a pattern by its index, rows bind the variables of the pattern besides their own. -/
theorem only_index (hp : ∀ v ∈ p.vars, v ∈ W) (hs : Only P (BindsIn W) source) :
    Only P (BindsIn W) (index g r p source) := by
  refine g.only_mergeMap (fun s hs => ?_) hs
  have hfind : Only P (fun _ => True) (r.find g (p.bind s)) := r.only_find g (p.bind s)
  dsimp only
  split
  · exact g.only_map (fun _ _ => hs) (g.only_limit 1 hfind)
  · refine g.only_filterMap (fun t _ u hu => ?_) hfind
    obtain ⟨m, hm, hmerge⟩ := Option.bind_eq_some_iff.1 hu
    exact hs.merge? (TriplePattern.bindsIn_of_match? (fun v hv => hp v (p.vars_bind s v hv)) hm) hmerge

/-- Joined with several patterns one after the other, rows bind the variables of all of them besides their own. -/
theorem only_indexAll (hps : ∀ p ∈ ps, ∀ v ∈ p.vars, v ∈ W) (hs : Only P (BindsIn W) source) :
    Only P (BindsIn W) (indexAll g r ps source) := by
  induction ps generalizing source with
  | nil => exact hs
  | cons p ps ih =>
    obtain ⟨hp, hps⟩ := List.forall_mem_cons.1 hps
    exact ih hps (only_index hp hs)

/-- The solutions of some patterns bind only their variables. -/
theorem only_bgp (hps : ∀ p ∈ ps, ∀ v ∈ p.vars, v ∈ W) : Only P (BindsIn W) (bgp c r ps) := by
  have hempty : Only P (BindsIn W) (Stage.ofList [Solution.empty] : Flow Solution) := .ofList (.cons bindsIn_empty .nil)
  have hall : ∀ qs : List TriplePattern, (∀ q ∈ qs, q ∈ ps) →
      Only P (BindsIn W) (indexAll c.engine r qs (.ofList [.empty])) :=
    fun qs hqs => only_indexAll (fun q hq => hps q (hqs q hq)) hempty
  unfold bgp
  split
  · exact hempty
  · refine .read fun s _ => ?_
    split
    · rename_i hestimate
      obtain ⟨qs, hqs, hperm⟩ := orderByEstimate_perm hestimate ps
      rw [hqs]
      exact hall qs fun q hq => hperm.mem_iff.1 hq
    · split
      · exact hall ps fun q hq => hq
      · exact hall _ fun q hq => (TriplePattern.structuralOrder_perm ps).mem_iff.1 hq

/-- Where the invariant holds, a look-up of the patterns delivers only solutions that bind their variables, also if
they have been kept. -/
def StaysInScope (P : Store → Prop) (c : Settings) (ps : List TriplePattern) : Prop :=
  ∀ r, Only P (BindsIn (varsOf ps)) (cachedBgp c r ps)

/-- At most those that the patterns have. -/
theorem only_bgp_vars (c : Settings) (r : GraphRef) (ps : List TriplePattern) :
    Only P (BindsIn (varsOf ps)) (bgp c r ps) := only_bgp fun p hp _ hv => ⟨p, hp, hv⟩

/-- A look-up stays in scope if nothing is kept or what has been kept is not asked for. -/
theorem staysInScope_of_cacheOff (hoff : ∀ s, P s → c.hints.useCache = true → s.cache = none) :
    StaysInScope P c ps := by
  intro r
  refine .read fun s hs => ?_
  split
  · exact only_bgp_vars c r ps
  · rename_i k hk
    split at hk
    · rename_i huse
      rw [hoff s hs huse] at hk
      cases hk
    · cases hk

/-- What is found among entries in scope is in scope, and so is what is kept. -/
theorem staysInScope_of_kept (hps : ∀ p ∈ ps, p.isUnbroken = true) : StaysInScope Store.KeptInScope c ps := by
  intro r
  have hbgp := only_bgp_vars (P := Store.KeptInScope) c r ps
  refine .read fun s hs => ?_
  split
  · exact hbgp
  · rename_i k hk
    have hcache : s.cache = some k := by
      split at hk
      · exact hk
      · cases hk
    dsimp only
    split
    · rename_i ss hfound
      exact .ofList (hs.of_get? hps hcache hfound)
    · refine c.engine.only_mergeMap (fun ss hss => .ofList hss) ?_
      exact c.engine.only_mapWithState (fun ss t hss ht => ⟨hss, ht.keep hps hss⟩) (c.engine.only_gather hbgp)

section Joins

variable (hc : StaysInScope P c ps) (hps : ∀ p ∈ ps, ∀ v ∈ p.vars, v ∈ W)
include hps

/-- With a row put in, they bind no more. -/
theorem only_bgp_bind (s : Solution) : Only P (BindsIn W) (bgp c r (ps.map (·.bind s))) :=
  only_bgp (List.forall_mem_map.2 fun p hp v hv => hps p hp v (p.vars_bind s v hv))

include hc

/-- If this holds of what is kept, it holds of what is looked up. -/
theorem only_cachedBgp (r : GraphRef) : Only P (BindsIn W) (cachedBgp c r ps) := by
  refine (hc r).mono fun s hs => hs.mono ?_
  rintro v ⟨p, hp, hv⟩
  exact hps p hp v hv

/-- A nested join adds only variables of the patterns. -/
theorem only_nested (hs : Only P (BindsIn W) source) : Only P (BindsIn W) (nested c r ps source) := by
  refine c.engine.only_mergeMap (fun s hs => ?_) hs
  split
  · exact only_cachedBgp hc hps r
  · exact c.engine.only_filterMap (fun m hm u hu => hs.merge? hm hu) (only_bgp_bind hps s)

/-- The rows of a batch bind only these and their own: the markers are taken off again. -/
theorem only_batch {rows : List Solution} (hrows : Each (BindsIn W) rows) :
    Only P (BindsIn W) (batch c r ps rows) := by
  unfold batch
  split
  · exact only_cachedBgp hc hps r
  · refine c.engine.only_merge fun f hf => ?_
    rcases List.mem_append.1 hf with hf | hf
    · obtain ⟨s, hs, hf⟩ := List.mem_filterMap.1 hf
      dsimp only at hf
      split at hf
      · rw [← Option.some.inj hf]
        exact c.engine.only_filterMap (fun m hm u hu => (hrows s hs).merge? hm hu) (only_bgp_bind hps s)
      · cases hf
    · split at hf
      · cases hf
      · rw [List.mem_singleton.1 hf]
        refine c.engine.only_filterMap (Q := BindsIn (Marker.marked W)) (fun m hm u hu => ?_) ?_
        · obtain ⟨⟨i, n⟩, hn, hu⟩ := Option.bind_eq_some_iff.1 hu
          obtain ⟨x, hx, hu⟩ := Option.bind_eq_some_iff.1 hu
          have hmem : x.1 ∈ rows := by
            have hrest := List.mem_of_find?_eq_some hx
            exact List.fst_mem_of_mem_zipIdx (List.mem_filter.1 hrest).1
          exact (hrows x.1 hmem).merge? (Marker.bindsIn_of_unmarkSolution? hm hn) hu
        · refine c.engine.only_merge (List.forall_mem_map.2 (List.forall_mem_map.2 fun x _ => ?_))
          refine only_bgp (List.forall_mem_map.2 fun p hp => ?_)
          exact Marker.vars_markPattern fun v hv => hps p hp v (p.vars_bind x.1 v hv)

/-- The rows of a bound join bind only what its source and its patterns do, whatever the size of its batches is. -/
theorem only_bound (hs : Only P (BindsIn W) source) : Only P (BindsIn W) (bound c r ps source) := by
  refine .read fun s _ => ?_
  split
  · exact c.engine.only_mergeMap (fun rows hrows => only_batch hc hps hrows) (c.engine.only_buffer _ hs)
  · exact only_nested hc hps hs

end Joins

end Join

end SparqlAlgebra
