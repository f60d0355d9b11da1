import SparqlAlgebra.Proofs.Algebra.Rows
import SparqlAlgebra.Proofs.Join.Batch
import SparqlAlgebra.Proofs.Plan.Core
import SparqlAlgebra.Proofs.Plan.Touches

/-!
# Plans deliver the rows of their patterns

Whatever engine, hints and capabilities a plan meets, it turns a source that stays within a bag into a stage that
stays within the rows of the pattern over that bag. It may take for granted what is known of all rows of the source. One
lemma for each way to make a plan of paths, joins and tables; none of them changes the store.
-/

namespace SparqlAlgebra

open Solution Stage Join

variable {P : Store → Prop} {mayFail : Prop} {c : Scope} {d : Dataset} {st : Store} {source : Flow Solution}
  {V : Multiset Solution} {Q R : Solution → Prop}

/-- A bag made of those for the items of a list is their sum. -/
theorem coe_bind_eq_sum {α β : Type} (xs : List α) (F : α → Multiset β) :
    (xs : Multiset α).bind F = (xs.map F).sum := by
  rw [Multiset.bind, Multiset.join, Multiset.map_coe, Multiset.sum_coe]

namespace Build

variable {α β : Type} {Q : α → Prop} {R : β → Prop} {b : Build α} {f : α → Build β} {a : α}

/-- A construction leaves the store as it is and gives something with a property, or fails where that is allowed. -/
def Gives (mayFail : Prop) (st : Store) (Q : α → Prop) (b : Build α) : Prop :=
  Ends (fun t => t = st) mayFail Q (b.run st)

/-- What is there is given. -/
theorem Gives.pure (h : Q a) : Gives mayFail st Q (Pure.pure a : Build α) := ⟨rfl, h⟩

/-- An error is given only where failures are allowed. -/
theorem Gives.throw (e : QueryError) (h : mayFail) : Gives mayFail st Q (MonadExcept.throw e : Build α) := ⟨rfl, h⟩

/-- The store itself can be had. -/
theorem gives_get : Gives mayFail st (fun s => s = st) (get : Build Store) := ⟨rfl, rfl⟩

/-- Two constructions give what the second one gives from the result of the first. -/
theorem Gives.bind (h : Gives mayFail st Q b) (hf : ∀ a, Q a → Gives mayFail st R (f a)) :
    Gives mayFail st R (b >>= f) := by
  unfold Gives at h ⊢
  rw [run_bind]
  rcases hb : b.run st with ⟨e | a, t⟩
  · rw [hb] at h
    exact h
  · rw [hb] at h
    obtain ⟨rfl, ha⟩ := h
    exact hf a ha

/-- Checks for each item give nothing but success if each of them does. -/
theorem Gives.forM {ps : List α} {f : α → Build PUnit} (h : ∀ p ∈ ps, Gives mayFail st (fun _ => True) (f p)) :
    Gives mayFail st (fun _ => True) (ps.forM f) := by
  induction ps with
  | nil => exact .pure trivial
  | cons p ps ih =>
    have hrest := ih fun q hq => h q (List.mem_cons_of_mem p hq)
    exact (h p List.mem_cons_self).bind fun _ _ => hrest

end Build

namespace Plan

open Build

/-- In the stores with a property a plan turns sources that stay within a bag of certain rows into stages that stay
within the rows of a function. -/
def MeansOn (Q : Solution → Prop) (P : Store → Prop) (mayFail : Prop) (c : Scope) (p : Plan) (F : Rows) : Prop :=
  ∀ (source : Flow Solution) (V : Multiset Solution), (∀ s ∈ V, Q s) → Within P mayFail source V →
    ∀ st, P st →
      Gives mayFail st (fun stage => Within P mayFail stage (F V)) (p c source)

/-- This holds of sources that stay within any bag. -/
abbrev Means (P : Store → Prop) (mayFail : Prop) (c : Scope) (p : Plan) (F : Rows) : Prop :=
  MeansOn (fun _ => True) P mayFail c p F

/-- A function makes certain rows of certain rows. -/
def Keeps (Q R : Solution → Prop) (F : Rows) : Prop := ∀ V : Multiset Solution, (∀ s ∈ V, Q s) → ∀ s ∈ F V, R s

/-- Any rows are kept if nothing is asked of them. -/
theorem Keeps.any {F : Rows} : Keeps Q (fun _ => True) F := fun _ _ _ _ => trivial

/-- A bag of one row has only that row. -/
theorem forall_mem_singleton_bag {s : Solution} (hs : Q s) : ∀ t ∈ ({s} : Multiset Solution), Q t := fun t ht => by
  rwa [Multiset.mem_singleton.1 ht]

variable {a b p : Plan} {A B F : Rows} {ps : List Plan} {Fs : List Rows}

/-- A plan that is built at once stays within its rows, also if its failure becomes the only item. -/
theorem within_now {x : Build (Flow Solution)}
    (h : Gives mayFail st (fun stage => Within P mayFail stage V) x) :
    Within P mayFail (now x st).1 V ∧ (now x st).2 = st := by
  unfold Gives at h
  unfold now
  rcases hx : x.run st with ⟨e | stage, t⟩
  · rw [hx] at h
    exact ⟨.failed e V h.2, h.1⟩
  · rw [hx] at h
    exact ⟨h.2, h.1⟩

/-- What is built later stays within what it is built for. -/
theorem within_later {x : Build (Flow Solution)}
    (h : ∀ st, P st → Gives mayFail st (fun stage => Within P mayFail stage V) x) :
    Within P mayFail (later x) V := by
  refine .act fun st hst => ?_
  obtain ⟨hx, ht⟩ := within_now (h st hst)
  rw [ht]
  exact ⟨hx, hst⟩

/-- What holds of all rows holds of some. -/
theorem Means.on (h : Means P mayFail c p F) : MeansOn Q P mayFail c p F :=
  fun source V _ hs st hst => h source V (fun _ _ => trivial) hs st hst

/-- A plan that means rows on a property has them for a single row with the property. -/
theorem MeansOn.single (h : MeansOn Q P mayFail c p F) {s : Solution} (hs : Q s) (hst : P st) :
    Gives mayFail st (fun stage => Within P mayFail stage (F {s})) (p c (.ofList [s])) :=
  h (.ofList [s]) {s} (forall_mem_singleton_bag hs) (.ofList [s]) st hst

/-- A plan with a meaning can be built. -/
theorem MeansOn.validate (h : MeansOn Q P mayFail c p F) (hst : P st) :
    Gives mayFail st (fun _ => True) (Plan.validate p c) :=
  (h .done 0 (fun _ hs => absurd hs (Multiset.notMem_zero _)) .done st hst).bind fun _ _ => .pure trivial

/-- Plans over a single solution, built one after another. -/
theorem within_forEach (h : List.Forall₂ (MeansOn Q P mayFail c) ps Fs) {s : Solution} (hs : Q s) (hst : P st) :
    (forEach c s ps st).2 = st ∧
      List.Forall₂ (Within P mayFail) (forEach c s ps st).1 (Fs.map fun F => F {s}) := by
  induction h with
  | nil => exact ⟨rfl, .nil⟩
  | cons hp _ ih =>
    obtain ⟨hf, ht⟩ := within_now (hp.single hs hst)
    rw [forEach_cons, ht]
    exact ⟨ih.1, .cons hf ih.2⟩

/-! ## Triples and paths -/

/-- Against the graph of each row a row finds what it finds there. -/
theorem within_onBoundGraph (hP : ∀ s, P s → s.dataset = d) {evaluate : Flow Solution → GraphRef → Flow Solution}
    {f : GraphRef → Solution → Multiset Solution}
    (v : Variable) (hf : ∀ r s, c.Shows d r (.bound v) → Within P mayFail (evaluate (.ofList [s]) r) (f r s))
    (s : Solution) :
    Within P mayFail (c.onBoundGraph v evaluate s) (c.find d f s (.bound v)) := by
  refine .read fun st hst => ?_
  rw [hP st hst, Scope.find]
  cases s.get? v with
  | none =>
    dsimp only
    rw [coe_bind_eq_sum]
    refine c.engine.within_merge ?_
    rw [List.forall₂_map_left_iff, List.forall₂_map_right_iff, List.forall₂_same]
    exact fun iri hiri => hf _ _ ⟨iri, Scope.mem_namedGraphs_iff.1 hiri, rfl⟩
  | some t =>
    cases t with
    | iri iri =>
      dsimp only
      split
      · rename_i hsee
        exact hf _ s ⟨iri, hsee, rfl⟩
      · exact .done
    | blank b => exact .done
    | literal l => exact .done

/-- Against the active graph each row finds what it finds there. -/
theorem gives_onActiveGraph (hP : ∀ s, P s → s.dataset = d)
    {evaluate : Flow Solution → GraphRef → Flow Solution} {f : GraphRef → Solution → Multiset Solution}
    (hf : ∀ r source V, c.Shows d r c.active → Within P mayFail source V →
      Within P mayFail (evaluate source r) (V.bind (f r)))
    (hactive : ∀ e, c.activeGraph? d = .error e → mayFail) (h : Within P mayFail source V) (hst : P st) :
    Gives mayFail st (fun stage => Within P mayFail stage (V.bind fun s => c.find d f s c.active))
      (c.onActiveGraph source evaluate) := by
  refine gives_get.bind fun s hs => ?_
  rw [hs, hP st hst]
  cases hact : c.active with
  | default =>
    rw [Scope.activeGraph?, hact]
    exact .pure (hf _ source V (by rw [hact]; rfl) h)
  | named iri =>
    rw [Scope.activeGraph?, hact] at hactive ⊢
    dsimp only at hactive ⊢
    by_cases hn : d.hasNamed iri = true
    · rw [if_pos hn]
      exact .pure (hf _ source V (by rw [hact]; exact ⟨hn, rfl⟩) h)
    · rw [if_neg hn] at hactive ⊢
      exact .throw _ (hactive _ rfl)
  | union iris =>
    rw [Scope.activeGraph?, hact]
    exact .pure (hf _ source V (by rw [hact]; rfl) h)
  | bound v =>
    rw [Scope.activeGraph?, hact]
    rw [hact] at hf
    have hsingle : ∀ r s, c.Shows d r (.bound v) → Within P mayFail (evaluate (.ofList [s]) r) (f r s) := by
      intro r s hr
      have hs := hf r (.ofList [s]) {s} hr (.ofList [s])
      rwa [Multiset.singleton_bind] at hs
    exact .pure (c.engine.within_mergeMap (fun s _ => within_onBoundGraph hP v hsingle s) h)

/-- Hiding variables hides them in all rows. -/
theorem within_strip (vs : List Variable) (h : Within P mayFail source V) :
    Within P mayFail (HiddenVariable.strip c.engine vs source) (V.map (HiddenVariable.hide vs)) := by
  unfold HiddenVariable.strip
  split
  · rename_i hn
    rw [List.isEmpty_iff.1 hn, Multiset.map_congr rfl fun s _ => HiddenVariable.hide_nil s, Multiset.map_id']
    exact h
  · exact c.engine.within_map _ h

/-- A path means the solutions at its leaf, without the variables that stand for blank nodes. -/
theorem means_path (hP : ∀ s, P s → s.dataset = d) {x y : Slot} {p : Path}
    (hactive : ∀ e, c.activeGraph? d = .error e → mayFail) :
    Means P mayFail c (paths [⟨x, p, y⟩]) fun V =>
      (V.bind ((c.leafRows d).path c.active (PathPattern.mk x p y).hide)).map
        (HiddenVariable.hide (HiddenVariable.ofSlots [x, y])) := by
  intro source V _ hs st hst
  have hjoined : ∀ r source V, c.Shows d r c.active → Within P mayFail source V →
      Within P mayFail ((PathPattern.mk x p y).hide.run c.engine r source)
        (V.bind (r.pathRows d (PathPattern.mk x p y).hide)) :=
    fun r source V _ h => PathPattern.within_run _ hP c.engine r h
  exact (gives_onActiveGraph hP hjoined hactive hs hst).bind fun stage hstage => .pure (within_strip _ hstage)

/-! ## Joins and tables -/

/-- A join means its second part for the rows of the first one. -/
theorem means_join (ha : MeansOn Q P mayFail c a A) (hA : Keeps Q R A) (hb : MeansOn R P mayFail c b B) :
    MeansOn Q P mayFail c (join a b) fun V => B (A V) :=
  fun source V hV hs st hst =>
    (ha source V hV hs st hst).bind fun left hleft => hb left (A V) (hA V hV) hleft st hst

/-- A union means both parts for each row. -/
theorem means_union (ha : MeansOn Q P mayFail c a A) (hb : MeansOn Q P mayFail c b B) :
    MeansOn Q P mayFail c (union a b) (Rows.union A B) := by
  intro source V hV hs st hst
  refine (ha.validate hst).bind fun _ _ => (hb.validate hst).bind fun _ _ => .pure ?_
  refine c.engine.within_mergeMap (fun s hs => .act fun t ht => ?_) hs
  obtain ⟨hstore, hfs⟩ := within_forEach (.cons ha (.cons hb .nil)) (hV s hs) ht
  have hmerge := c.engine.within_merge hfs
  rw [List.map_cons, List.map_cons, List.map_nil, List.sum_cons, List.sum_cons, List.sum_nil, add_zero] at hmerge
  dsimp only
  rw [hstore]
  exact ⟨hmerge, ht⟩

/-- A difference means the rows that agree with nothing in the second part. -/
theorem means_minus (ha : MeansOn Q P mayFail c a A) (hb : MeansOn R P mayFail c b B) (hempty : R .empty) :
    MeansOn Q P mayFail c (minus a b) (Rows.minus A B) := by
  intro source V hV hs st hst
  refine (ha source V hV hs st hst).bind fun left hleft => ?_
  refine (hb.single hempty hst).bind fun right hright => .pure ?_
  refine c.engine.within_mergeMap_gather (fun buffer hbuffer => ?_) hright
  have hkeep : (fun s : Solution => (!buffer.any s.isCompatible) = true) =
      fun s => ∀ t ∈ B {Solution.empty}, s.isCompatible t = false := by
    funext s
    rw [← hbuffer]
    simp
  have hfilter := c.engine.within_filter (fun s => !buffer.any s.isCompatible) hleft
  unfold Rows.minus
  simpa only [hkeep] using hfilter

/-- A table means its rows, joined with those of the source. -/
theorem means_values (vs : List Variable) (rows : List (List (Option Term))) :
    Means P mayFail c (values vs rows) (Rows.values vs rows) := by
  intro source V _ hs st _
  exact .pure (c.engine.within_mergeMap (fun s _ => .ofList _) hs)

/-- A projection means its pattern from the empty row, joined with those of the source. -/
theorem means_project (vs : List Variable) (hp : MeansOn R P mayFail c p F) (hempty : R .empty) :
    Means P mayFail c (project vs p) (Rows.project vs F) := by
  intro source V _ hs st hst
  refine (hp.single hempty hst).bind fun stage hstage => .pure ?_
  refine c.engine.within_mergeMap_gather (fun table htable => ?_) (c.engine.within_map (fun s => s.project vs) hstage)
  rw [Rows.project, ← htable]
  exact c.engine.within_mergeMap (fun s _ => .ofList _) hs

/-- A graph of a given name means its pattern there, and fails only where it cannot be seen. -/
theorem means_graph (hP : ∀ s, P s → s.dataset = d) {iri : Iri} (hsee : c.canSee d iri = false → mayFail)
    (hp : c.canSee d iri = true → MeansOn Q P mayFail (c.withActive (.named iri)) p F) :
    MeansOn Q P mayFail c (graph (.iri iri) p) F := by
  intro source V hV hs st hst
  refine gives_get.bind fun s hstore => ?_
  rw [hstore, hP st hst]
  split
  · rename_i hvisible
    exact hp hvisible source V hV hs st hst
  · rename_i hn
    exact .throw _ (hsee (Bool.eq_false_iff.2 hn))

end Plan

end SparqlAlgebra
