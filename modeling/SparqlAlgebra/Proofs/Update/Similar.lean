import SparqlAlgebra.Proofs.Query.Similar
import SparqlAlgebra.Update.Execute

/-!
# Updates that do not depend on what has been kept

An operation reads what has been kept only for the solutions of its pattern, and a transfer only for the triples
of its source. If the look-ups of an operation can be served in two stores with the same dataset, or if the
operation does not ask for kept solutions at all, it has the same result in both and leaves the same dataset.
-/

namespace SparqlAlgebra

open Stage

variable {c : Scope} {d : Dataset} {s t : Store}

/-- A relation of stores that the same change of the dataset on both sides does not end. -/
structure Robust (Q : Store → Store → Prop) : Prop extends Indistinct Q where
  /-- The same change of the dataset on both sides keeps stores related. -/
  withDataset : ∀ s t d, Q s t → Q (s.withDataset d) (t.withDataset d)

/-- A new dataset and seed on both sides do not end a robust relation. -/
theorem Robust.replace {Q : Store → Store → Prop} (h : Robust Q) (hst : Q s t) (d : Dataset) (n : Nat) :
    Q { s with dataset := d, seed := n } { t with dataset := d, seed := n } :=
  h.reseed _ _ n (h.withDataset s t d hst)

/-- Both stores have the same dataset and the same seed, whatever they have kept. -/
structure SameData (s t : Store) : Prop where
  /-- Both stores have the same dataset. -/
  dataset : s.dataset = t.dataset
  /-- Both stores draw the same values next. -/
  seed : s.seed = t.seed

namespace SameData

/-- Changes of the dataset keep equal data equal. -/
theorem robust : Robust SameData where
  dataset _ _ h := h.dataset
  seed _ _ h := h.seed
  reseed _ _ _ h := ⟨h.dataset, rfl⟩
  withDataset _ _ _ h := ⟨rfl, h.seed⟩

/-- Where kept solutions are not asked for, nothing shows a difference. -/
theorem hides (hc : c.settings.hints.useCache = false) (x : Touch) : x.Hides SameData c := by
  have hcached : ∀ r ps, Stage.Similar SameData (Join.cachedBgp c.settings r ps) (Join.cachedBgp c.settings r ps) :=
    fun r ps => Join.similar_cachedBgp_of_unused robust.toIndistinct fun s t _ => by simp [hc]
  exact Touch.Hides.of_anywhere ⟨fun _ s t d h _ => robust.withDataset s t d h, hcached⟩ x

end SameData

/-- The stores are the same, and there is room for this many entries. -/
abbrev SameRoom (room : Option Cache) : Store → Store → Prop := Same fun s => s.cache.map Cache.clear = room

namespace SameRoom

variable {room : Option Cache}

/-- Keeping solutions takes no room away. -/
theorem lasting (room : Option Cache) : Lasting fun s => s.cache.map Cache.clear = room where
  reseed _ _ h := h
  keep s graph ps ss h := by
    rw [← h, Option.map_map]
    refine Option.map_congr fun k _ => ?_
    dsimp only [Function.comp, Cache.insert]
    split
    · rfl
    · rfl

/-- Changes of the dataset on both sides keep the room for entries the same. -/
theorem robust : Robust (SameRoom room) where
  toIndistinct := (lasting room).indistinct
  withDataset _ _ _ h := ⟨by rw [h.eq], h.holds⟩

/-- Stores with the same room answer every touch alike. -/
theorem hides (x : Touch) : x.Hides (SameRoom room) c :=
  Touch.Hides.of_anywhere
    ⟨fun _ s t d h _ => robust.withDataset s t d h, fun r ps => (lasting room).similar_cachedBgp c.settings r ps⟩ x

end SameRoom

namespace UpdateOperation

/-- The scope in which the pattern of an operation is evaluated. -/
def scope (c : Scope) : UpdateOperation → Scope
  | .deleteInsert _ _ dataset _ => c.withDataset dataset
  | _ => c

/-- What an operation touches. -/
def touches (c : Scope) : UpdateOperation → List Touch
  | .deleteInsert _ _ dataset pattern => pattern.touches (c.withDataset dataset).active
  | .transfer _ source _ _ => (allOf source).touches c.active
  | _ => []

/-- The look-ups of an operation. -/
def lookups (c : Scope) (d : Dataset) (op : UpdateOperation) : Set Lookup := (op.scope c).lookups d (op.touches c)

/-- The pattern of an operation is touched as that of a query for its solutions is. -/
theorem touches_deleteInsert {delete insert : List QuadPattern} {choice : Option QueryDataset} {p : Pattern} :
    touches c (.deleteInsert delete insert choice p) = Query.touches c ⟨.select, p, choice⟩ :=
  (List.append_nil _).symm

/-- The look-ups of a deletion and insertion are those of its pattern as a query. -/
theorem lookups_deleteInsert {delete insert : List QuadPattern} {choice : Option QueryDataset} {p : Pattern} :
    lookups c d (.deleteInsert delete insert choice p) = Query.lookups c d ⟨.select, p, choice⟩ := by
  rw [lookups, touches_deleteInsert]
  rfl

/-- All look-ups of an operation can be served from the entries that a store has kept. -/
structure Served (c : Scope) (op : UpdateOperation) (s : Store) : Prop where
  /-- No graph is created while the pattern of the operation is evaluated. -/
  createsNone : ∀ x ∈ op.touches c, x.CreatesNone s.dataset
  /-- The look-ups are told apart by their keys. -/
  apart : ToldApart s.dataset (op.lookups c s.dataset)
  /-- What has been kept for a look-up is current. -/
  current : ∀ e ∈ s.kept, Current s.dataset (op.lookups c s.dataset) e

/-- The entries that have been kept for some look-ups can serve others from which they are told apart. -/
theorem Served.of_keptFor {op : UpdateOperation} {T : Set Lookup} (hnone : ∀ x ∈ op.touches c, x.CreatesNone s.dataset)
    (hapart : ToldApart s.dataset (T ∪ op.lookups c s.dataset)) (hkept : ∀ e ∈ s.kept, KeptFor s.dataset T e) :
    Served c op s := by
  have hserves := Serves.of_keptFor hapart (Set.subset_union_right (s := T))
  have hcurrent : ∀ e ∈ s.kept, Current s.dataset (op.lookups c s.dataset) e :=
    fun e he => hserves.current e ((hkept e he).mono Set.subset_union_left)
  exact ⟨hnone, hapart.mono Set.subset_union_right, hcurrent⟩

/-- The look-ups can also be served after a change of graphs that they do not look at. -/
theorem Served.withDataset {op : UpdateOperation} (h : Served c op s) (hsub : op.lookups c d ⊆ op.lookups c s.dataset)
    (hsame : ∀ l ∈ op.lookups c d, l.graph.SameIn s.dataset d)
    (hnamed : ∀ iri, d.hasNamed iri = s.dataset.hasNamed iri) : Served c op (s.withDataset d) where
  createsNone x hx := by
    have hnone := h.createsNone x hx
    cases x with
    | lookup a ps => trivial
    | create iri => exact (hnamed iri).trans hnone
    | anywhere => exact hnone
  apart l hl m hm hk := by
    change l.solutions d = m.solutions d
    rw [← Lookup.solutions_congr (hsame l hl), ← Lookup.solutions_congr (hsame m hm)]
    refine h.apart l (hsub hl) m (hsub hm) ?_
    rw [Lookup.key_congr (hsame l hl), Lookup.key_congr (hsame m hm)]
    exact hk
  current e he l hl hk := by
    change e.2 = l.solutions d
    rw [← Lookup.solutions_congr (hsame l hl)]
    refine h.current e he l (hsub hl) ?_
    rw [Lookup.key_congr (hsame l hl)]
    exact hk

/-- The active graph in which all triples of a graph are looked up. -/
def activeOf : GraphName → ActiveGraph
  | .default => .default
  | .named iri => .named iri

/-- The pattern of all triples of a graph makes one look-up, of the graph itself. -/
theorem touches_allOf (source : GraphName) :
    (allOf source).touches .default = (Plan.lookedUp [anyTriple]).map (.lookup (activeOf source)) := by
  cases source with
  | default => rw [allOf, Pattern.touches, activeOf]
  | named iri => rw [allOf, Pattern.touches, Pattern.touches, activeOf]

/-- Clearing another graph changes nothing for the look-up of the source. -/
theorem Served.clear {kind : Transfer} {source target : GraphName} {silent : Bool} (hc : c.active = .default)
    (hne : target ≠ source) (h : Served c (.transfer kind source target silent) s) :
    Served c (.transfer kind source target silent) (s.withDataset (s.dataset.modify target (·.clear))) := by
  have hshows : ∀ r, c.Shows (s.dataset.modify target (·.clear)) r (activeOf source) →
      c.Shows s.dataset r (activeOf source) ∧ r = .single source := by
    intro r hr
    cases source with
    | default => exact ⟨hr, hr⟩
    | named iri =>
      obtain ⟨hn, rfl⟩ := hr
      rw [Dataset.hasNamed_modify] at hn
      exact ⟨⟨hn, rfl⟩, rfl⟩
  have hmem : ∀ l ∈ lookups c (s.dataset.modify target (·.clear)) (.transfer kind source target silent),
      l ∈ lookups c s.dataset (.transfer kind source target silent) ∧ l.graph = .single source := by
    intro l hl
    obtain ⟨huse, hset, a, ha, hr⟩ := hl
    have ha' := ha
    rw [touches, hc, touches_allOf] at ha'
    obtain ⟨ps, -, hps⟩ := List.mem_map.1 ha'
    obtain ⟨rfl, -⟩ := Touch.lookup.inj hps
    obtain ⟨hs, hg⟩ := hshows l.graph hr
    exact ⟨⟨huse, hset, _, ha, hs⟩, hg⟩
  refine h.withDataset (fun l hl => (hmem l hl).1) (fun l hl name hname => ?_) (Dataset.hasNamed_modify _ _ _)
  rw [(hmem l hl).2, GraphRef.leaves, List.mem_singleton] at hname
  rw [hname, Dataset.graph_modify_of_ne hne]

/-! ## Carrying out operations side by side -/

/-- A relation in which an operation can be carried out side by side: nothing that it touches shows a difference,
also not after the target of a transfer has been cleared. The stores end up in another relation. -/
structure Follows (c : Scope) (op : UpdateOperation) (A Q : Store → Store → Prop) : Prop where
  /-- A change of the dataset on both sides does not end the second relation. -/
  robust : Robust Q
  /-- The first relation implies the second one. -/
  sub : ∀ s t, A s t → Q s t
  /-- What the operation touches shows no difference between related stores. -/
  hides : ∀ s t, A s t →
    ∃ R, Indistinct R ∧ (∀ s t, R s t → Q s t) ∧ R s t ∧ ∀ x ∈ op.touches c, x.Hides R (op.scope c)
  /-- Clearing the target of a transfer keeps the first relation. -/
  clear : ∀ kind source target silent, op = .transfer kind source target silent → target ≠ source →
    ∀ s t, A s t → A (s.withDataset (s.dataset.modify target (·.clear)))
      (t.withDataset (s.dataset.modify target (·.clear)))

section Follows

variable {A Q : Store → Store → Prop} {op : UpdateOperation}

/-- A change that depends only on the dataset has similar runs. -/
theorem similar_change (hQ : Robust Q) (f : Dataset → Except QueryError Dataset) :
    Build.Similar Q Eq (change f) (change f) := by
  refine Build.Similar.get.bind fun s t h => ?_
  rw [hQ.dataset s t h]
  cases f t.dataset with
  | ok d => exact .set (hQ.withDataset s t d h)
  | error e => exact .throw e

/-- Replacing has similar runs if the touches of its pattern are answered alike. -/
theorem replace_run {R : Store → Store → Prop} (hI : Indistinct R) (hQ : Robust Q) (hsub : ∀ s t, R s t → Q s t)
    {delete insert : List QuadPattern} {dataset : Option QueryDataset} {pattern : Pattern}
    (h : ∀ x ∈ pattern.touches (c.withDataset dataset).active, x.Hides R (c.withDataset dataset)) (hR : R s t) :
    SameResult Q Eq ((replace c delete insert dataset pattern).run s)
      ((replace c delete insert dataset pattern).run t) := by
  have hplan := pattern.similar_plan hI.dataset _ _ ⟨h, .inr hI.redraws⟩ (.refl _) _ _ (.ofList [.empty]) s t hR
  refine hplan.bind hsub fun f g s t hfg hR => ?_
  refine (Plan.similar_collect hfg s t hR).bind hsub fun rows _ s t hrows hR => ?_
  obtain rfl := hrows
  refine .ok rfl ?_
  rw [applyTemplates, applyTemplates, hI.dataset s t hR, hI.seed s t hR]
  exact hQ.replace (hsub s t hR) _ _

section Transfers

variable {kind : Transfer} {source target : GraphName} {silent : Bool}
  (hF : Follows c (.transfer kind source target silent) A Q)
include hF

/-- Inserting all triples of a graph into another one has similar runs. -/
theorem insertAllOf_run (h : A s t) :
    SameResult Q Eq ((insertAllOf c source target).run s) ((insertAllOf c source target).run t) := by
  obtain ⟨R, hI, hsub, hR, hx⟩ := hF.hides s t h
  exact replace_run hI hF.robust hsub hx hR

/-- Clearing the target of a transfer, if it is there, has similar runs that can be followed further. -/
theorem clearIfThere_run (hne : target ≠ source) (h : A s t) :
    SameResult A Eq ((clearIfThere target).run s) ((clearIfThere target).run t) := by
  have hdata : s.dataset = t.dataset := hF.robust.dataset s t (hF.sub s t h)
  rw [clearIfThere, change, Build.run_bind_ok (Build.run_get s), Build.run_bind_ok (Build.run_get t), ← hdata,
    Dataset.clear]
  cases s.dataset.demand target with
  | ok _ => exact .ok rfl (hF.clear _ _ _ _ rfl hne s t h)
  | error e =>
    have ht : t.withDataset s.dataset = t := by rw [hdata]; rfl
    refine .ok rfl ?_
    rw [ht]
    exact h

/-- A transfer between different graphs has similar runs; only an addition may have its source as its target. -/
theorem transferBetween_run (hne : kind ≠ .add → target ≠ source) (h : A s t) :
    SameResult Q Eq ((transferBetween c source target kind).run s) ((transferBetween c source target kind).run t) := by
  cases kind with
  | add => exact insertAllOf_run hF h
  | copy =>
    exact (clearIfThere_run hF (hne (by decide)) h).bind hF.sub fun _ _ s t _ h => insertAllOf_run hF h
  | move =>
    refine (clearIfThere_run hF (hne (by decide)) h).bind hF.sub fun _ _ s t _ h => ?_
    exact (insertAllOf_run hF h).bind (fun _ _ h => h) fun _ _ s t _ h => similar_change hF.robust _ s t h

/-- A transfer has similar runs. -/
theorem executeTransfer_run (h : A s t) :
    SameResult Q Eq ((executeTransfer c kind source target silent).run s)
      ((executeTransfer c kind source target silent).run t) := by
  have hQ := hF.sub s t h
  rw [executeTransfer, Build.run_bind_ok (Build.run_get s), Build.run_bind_ok (Build.run_get t),
    hF.robust.dataset s t hQ]
  by_cases hidle : isIdle t.dataset source target kind = true
  · simp only [hidle, if_true]
    exact .ok rfl hQ
  · simp only [hidle]
    cases hdem : t.dataset.demand source with
    | ok _ =>
      refine transferBetween_run hF (fun hk ht => hidle ?_) h
      cases kind with
      | add => exact absurd rfl hk
      | copy => simp [isIdle, ht]
      | move => simp [isIdle, ht]
    | error e =>
      cases silent with
      | true => exact .ok rfl hQ
      | false => exact .error hQ

end Transfers

/-- Carried out side by side, an operation has the same result. -/
theorem execute_run (hF : Follows c op A Q) (h : A s t) :
    SameResult Q Eq ((op.execute c).run s) ((op.execute c).run t) := by
  have hQ := hF.sub s t h
  have hchange := fun f => similar_change hF.robust f s t hQ
  cases op with
  | insertData quads =>
    refine .ok rfl ?_
    dsimp only
    rw [hF.robust.dataset s t hQ, hF.robust.seed s t hQ]
    exact hF.robust.replace hQ _ _
  | deleteData quads =>
    rw [execute]
    exact hchange _
  | deleteInsert delete insert dataset pattern =>
    obtain ⟨R, hI, hsub, hR, hx⟩ := hF.hides s t h
    exact replace_run hI hF.robust hsub hx hR
  | load source silent =>
    rw [execute]
    split
    · exact .ok rfl hQ
    · exact .error hQ
  | clear target silent =>
    rw [execute]
    exact hchange _
  | drop target silent =>
    rw [execute]
    exact hchange _
  | create iri silent =>
    rw [execute]
    exact hchange _
  | transfer kind source target silent => exact executeTransfer_run hF h

end Follows

/-- The scope of an operation has the settings of the request. -/
theorem scope_settings (c : Scope) (op : UpdateOperation) : (op.scope c).settings = c.settings := by
  cases op with
  | deleteInsert _ _ dataset _ => exact c.settings_withDataset dataset
  | _ => rfl

namespace Follows

variable {op : UpdateOperation}

/-- A relation by the room for entries can be followed through every operation. -/
theorem sameRoom (room : Option Cache) : Follows c op (SameRoom room) (SameRoom room) where
  robust := SameRoom.robust
  sub _ _ h := h
  hides _ _ h := ⟨_, SameRoom.robust.toIndistinct, fun _ _ h => h, h, fun x _ => SameRoom.hides x⟩
  clear _ _ _ _ _ _ s t h := SameRoom.robust.withDataset s t _ h

/-- An operation that does not ask for kept solutions may be carried out whatever is kept. -/
theorem sameData (hc : c.settings.hints.useCache = false) : Follows c op SameData SameData where
  robust := SameData.robust
  sub _ _ h := h
  hides _ _ h :=
    ⟨_, SameData.robust.toIndistinct, fun _ _ h => h, h, fun x _ => SameData.hides (by rw [scope_settings, hc]) x⟩
  clear _ _ _ _ _ _ s t h := SameData.robust.withDataset s t _ h

/-- An operation that is served on both sides may be carried out whatever else is kept. -/
theorem served (hc : c.active = .default) :
    Follows c op (fun s t => SameData s t ∧ Served c op s ∧ Served c op t) SameData where
  robust := SameData.robust
  sub _ _ h := h.1
  hides := by
    intro s t hst
    obtain ⟨hdata, hs, ht⟩ := hst
    have hcurrent : ∀ e ∈ t.kept, Current s.dataset (op.lookups c s.dataset) e := by
      rw [hdata.dataset]
      exact ht.current
    have hserves := Serves.of_current hs.apart
    exact ⟨_, Alike.indistinct, fun s t h => ⟨h.left.trans h.right.symm, h.seed⟩,
      ⟨rfl, hdata.dataset.symm, hdata.seed, hs.current, hcurrent⟩,
      Touch.hides_of_serves hserves (fun _ hl => hl) hs.createsNone⟩
  clear := by
    intro kind source target silent hop hne s t hst
    subst hop
    obtain ⟨hdata, hs, ht⟩ := hst
    refine ⟨SameData.robust.withDataset s t _ hdata, hs.clear hc hne, ?_⟩
    rw [hdata.dataset]
    exact ht.clear hc hne

end Follows

/-- An operation takes no room away from what is kept. -/
theorem execute_room (c : Scope) (op : UpdateOperation) (s : Store) :
    ((op.execute c).run s).2.cache.map Cache.clear = s.cache.map Cache.clear := by
  have hF : Follows c op (SameRoom (s.cache.map Cache.clear)) (SameRoom (s.cache.map Cache.clear)) := .sameRoom _
  have hs : SameRoom (s.cache.map Cache.clear) s s := ⟨rfl, rfl⟩
  exact (execute_run hF hs).snd.holds

end UpdateOperation

end SparqlAlgebra
