import AcceleratorFabric.Runs
import AcceleratorFabric.StoreConvergence

/-! # Informer histories

An informer keeps the last version of every live object by the object's name and delivers each
change to the cache, which is keyed by node name.  A `Delivery` is one such change; an object
that was deleted and created again between two lists of the informer is delivered as an update
to a version with any generation and any node name.

`Mirrors` says what a node's entry has to be, given the live objects of that node.  Each
delivery changes the live objects and the entry of one node, or of two when the node name
changes, so the cache reflects the history throughout a run exactly if every delivery meets
`Keeps` (`reflects_iff`). -/

namespace AcceleratorFabric.Topology.Informer

open GoMap NewestWins

/-! ### The entry of one node -/

section node

variable [Kube]

/-- The entry was built from the object. -/
def BuiltFrom (o : AcceleratorTopology) (entry : Option Result) : Prop :=
  ∃ snapshot, build o.spec = .ok snapshot ∧ entry = some (resultOf o snapshot)

/-- What the entry of a node has to be, given the live objects of the node. -/
def Mirrors (live : Set AcceleratorTopology) (entry : Option Result) : Prop :=
  (entry = none ↔ live = ∅) ∧ ∀ o, live = {o} → BuiltFrom o entry

/-- The entry of the node after `Upsert` of an object with the result `r`. -/
def accept (entry : Option Result) (r : Result) : Option Result :=
  match entry with
  | none => some r
  | some cached => if r.generations < cached.generations then some cached else some r

theorem accept_ne_none (entry : Option Result) (r : Result) : accept entry r ≠ none := by
  cases entry with
  | none => simp [accept]
  | some cached =>
      simp only [accept]
      split_ifs <;> simp

theorem lookup_upsert (s : Store) {o : AcceleratorTopology} {snapshot : Snapshot}
    (hs : build o.spec = .ok snapshot) (n : String) :
    (s.upsert (some o)).2.entries.lookup n = if n = o.spec.nodeName then
      accept (s.entries.lookup n) (resultOf o snapshot) else s.entries.lookup n := by
  have hoff : offered o = some (o.spec.nodeName, resultOf o snapshot) :=
    (offered_eq_some_iff o _ _).mpr ⟨snapshot, hs, rfl, rfl⟩
  rw [entries_upsert, hoff, Option.elim_some, lookup_offer]
  by_cases hn : n = o.spec.nodeName
  · subst hn
    unfold accept
    cases hl : s.entries.lookup o.spec.nodeName with
    | none => simp [Outdated, hl]
    | some cached =>
        by_cases hlt : (resultOf o snapshot).generations < cached.generations <;>
          simp [Outdated, hl, hlt]
  · rw [if_neg (fun h => hn h.1), if_neg hn]

theorem lookup_delete (s : Store) (m n : String) :
    (s.delete m).entries.lookup n = if n = m then none else s.entries.lookup n :=
  lookup_erase_ite s.entries m n

omit [Kube] in
/-- A set that becomes a singleton by an insertion was empty. -/
theorem insert_eq_singleton {live : Set AcceleratorTopology} {o x : AcceleratorTopology}
    (ho : o ∉ live) (h : insert o live = {x}) : o = x ∧ live = ∅ := by
  have hox : o = x := by
    rw [← Set.mem_singleton_iff, ← h]
    exact Set.mem_insert o live
  refine ⟨hox, Set.eq_empty_iff_forall_notMem.mpr ?_⟩
  intro y hy
  have hyx : y = x := by
    rw [← Set.mem_singleton_iff, ← h]
    exact Set.mem_insert_of_mem o hy
  exact ho (hox ▸ hyx ▸ hy)

theorem accept_eq_none_iff (entry : Option Result) (r : Result) (o : AcceleratorTopology)
    (live : Set AcceleratorTopology) : accept entry r = none ↔ insert o live = ∅ :=
  ⟨fun e => absurd e (accept_ne_none _ _), fun e => absurd e (Set.insert_nonempty o live).ne_empty⟩

/-- A new object arrives at the node. -/
theorem Mirrors.insert {live : Set AcceleratorTopology} {entry : Option Result}
    (h : Mirrors live entry) {o : AcceleratorTopology} (ho : o ∉ live) {snapshot : Snapshot}
    (hs : build o.spec = .ok snapshot) :
    Mirrors (insert o live) (accept entry (resultOf o snapshot)) := by
  refine ⟨accept_eq_none_iff _ _ _ _, ?_⟩
  intro x hx
  obtain ⟨rfl, hempty⟩ := insert_eq_singleton ho hx
  rw [h.1.mpr hempty]
  exact ⟨snapshot, hs, rfl⟩

/-- An object of the node is replaced by another version at the same node. -/
theorem Mirrors.replace_iff {others : Set AcceleratorTopology} {entry : Option Result}
    {old new : AcceleratorTopology} (h : Mirrors (Insert.insert old others) entry)
    (hnew : new ∉ others) {snapshot : Snapshot} (hs : build new.spec = .ok snapshot) :
    Mirrors (Insert.insert new others) (accept entry (resultOf new snapshot)) ↔
      (others = ∅ → generations old ≤ generations new) := by
  constructor
  · rintro hM rfl
    -- the entry was built from the old version, and now it has to be built from the new one
    obtain ⟨_, _, hentry⟩ := h.2 old (LawfulSingleton.insert_empty_eq old)
    obtain ⟨_, _, hentry'⟩ := hM.2 new (LawfulSingleton.insert_empty_eq new)
    by_contra hlt
    rw [hentry, accept, generations_resultOf, generations_resultOf,
      if_pos (not_le.mp hlt)] at hentry'
    have hgen := congrArg (Option.map Result.generations) hentry'
    simp only [Option.map_some, Option.some.injEq, generations_resultOf] at hgen
    exact hlt hgen.le
  · intro hle
    refine ⟨accept_eq_none_iff _ _ _ _, ?_⟩
    intro x hx
    obtain ⟨rfl, rfl⟩ := insert_eq_singleton hnew hx
    obtain ⟨_, _, hentry⟩ := h.2 old (LawfulSingleton.insert_empty_eq old)
    refine ⟨snapshot, hs, ?_⟩
    rw [hentry, accept, generations_resultOf, generations_resultOf,
      if_neg (not_lt.mpr (hle rfl))]

/-- An object leaves the node and the entry stays. -/
theorem Mirrors.leave_iff {others : Set AcceleratorTopology} {entry : Option Result}
    {old : AcceleratorTopology} (h : Mirrors (Insert.insert old others) entry) :
    Mirrors others entry ↔ others.Nonempty ∧ ∀ o, others = {o} → BuiltFrom o entry := by
  have hentry : entry ≠ none := fun e => (Set.insert_nonempty old others).ne_empty (h.1.mp e)
  unfold Mirrors
  rw [Set.nonempty_iff_ne_empty]
  simp [hentry]

/-- The entry is deleted. -/
theorem mirrors_none_iff (others : Set AcceleratorTopology) :
    Mirrors others none ↔ others = ∅ := by
  constructor
  · exact fun h => h.1.mp rfl
  · rintro rfl
    exact ⟨by simp, fun o h => absurd h.symm (Set.singleton_ne_empty o)⟩

end node

/-! ### Deliveries -/

/-- A change of one object as the informer delivers it; a deletion that was `missed` arrives as
a tombstone. -/
inductive Delivery where
  | added (object : AcceleratorTopology)
  | updated (old new : AcceleratorTopology)
  | deleted (object : AcceleratorTopology) (missed : Bool)

def Delivery.event : Delivery → Event
  | added o => .add (.topology o)
  | updated old new => .update (.topology old) (.topology new)
  | deleted o missed => .delete (if missed then .tombstone (some o) else .topology o)

/-- The informer's objects after the delivery. -/
def Delivery.apply (live : GoMap String AcceleratorTopology) :
    Delivery → GoMap String AcceleratorTopology
  | added o => live.insert o.name o
  | updated _ new => live.insert new.name new
  | deleted o _ => live.erase o.name

section world

variable [Kube]

/-- The last delivered version of every live object by name, and the cache that was told. -/
structure World where
  live : GoMap String AcceleratorTopology
  store : Store
  named : ∀ name o, live.lookup name = some o → o.name = name
  built : ∀ n r, store.entries.lookup n = some r → ∃ o snapshot, r = resultOf o snapshot

omit [Kube] in
theorem named_apply {live : GoMap String AcceleratorTopology}
    (h : ∀ name o, live.lookup name = some o → o.name = name) (d : Delivery) :
    ∀ name o, (d.apply live).lookup name = some o → o.name = name := by
  intro name o ho
  cases d with
  | added object | updated _ object =>
      rw [Delivery.apply, lookup_insert_ite] at ho
      split_ifs at ho with hn
      · cases ho
        exact hn.symm
      · exact h name o ho
  | deleted object _ =>
      rw [Delivery.apply, lookup_erase_ite] at ho
      split_ifs at ho
      exact h name o ho

/-- The handler stores nothing but results of objects. -/
theorem built_handle {s : Store}
    (h : ∀ n r, s.entries.lookup n = some r → ∃ o snapshot, r = resultOf o snapshot)
    (d : Delivery) : ∀ n r, (handle s d.event).1.entries.lookup n = some r →
      ∃ o snapshot, r = resultOf o snapshot := by
  have hupsert : ∀ (o : AcceleratorTopology) n r,
      (s.upsert (some o)).2.entries.lookup n = some r → ∃ o snapshot, r = resultOf o snapshot := by
    intro o n r hr
    rcases s.upsert_cases o with ⟨_, _, hdrop⟩ | ⟨_, _, snapshot, _, _, hentries⟩
    · rw [hdrop] at hr
      exact h n r hr
    · rw [hentries, lookup_insert_ite] at hr
      split_ifs at hr
      · cases hr
        exact ⟨o, snapshot, rfl⟩
      · exact h n r hr
  intro n r hr
  cases d with
  | added o =>
      rw [Delivery.event, handle_add] at hr
      exact hupsert o n r hr
  | updated old new =>
      rw [Delivery.event, handle_update] at hr
      exact hupsert new n r hr
  | deleted o missed =>
      have hdelete : (handle s (Delivery.deleted o missed).event).1 = s.delete o.spec.nodeName := by
        cases missed <;> rfl
      rw [hdelete, lookup_delete] at hr
      split_ifs at hr
      exact h n r hr

def World.start : World := ⟨∅, newStore, by simp, by simp [newStore]⟩

def World.step (w : World) (d : Delivery) : World where
  live := d.apply w.live
  store := (handle w.store d.event).1
  named := named_apply w.named d
  built := built_handle w.built d

/-- What an informer can deliver: additions of objects it does not have, updates and deletions
of objects it has.  Specs are valid, and the final version of a deleted object has the node name
of the last delivered one. -/
def Valid (w : World) : Delivery → Prop
  | .added o => w.live.lookup o.name = none ∧ ∃ snapshot, build o.spec = .ok snapshot
  | .updated old new => w.live.lookup new.name = some old ∧ ∃ snapshot, build new.spec = .ok snapshot
  | .deleted o _ => ∃ last, w.live.lookup o.name = some last ∧ last.spec.nodeName = o.spec.nodeName

/-- The live objects of the node. -/
def liveAt (w : World) (n : String) : Set AcceleratorTopology :=
  {o | w.live.lookup o.name = some o ∧ o.spec.nodeName = n}

/-- The live objects of the node but for the one with the given name. -/
def othersAt (w : World) (name n : String) : Set AcceleratorTopology :=
  {o | o ∈ liveAt w n ∧ o.name ≠ name}

/-- **The cache reflects the history**: a node is missing exactly if no live object has its name,
and the entry of a node with one live object is built from that object's last version. -/
def Reflects (w : World) : Prop :=
  ∀ n, (∀ now ttl, (w.store.get n now ttl).availability = .missing ↔ liveAt w n = ∅) ∧
    ∀ o, liveAt w n = {o} → BuiltFrom o (w.store.entries.lookup n)

/-- What a delivery must not do: delete one of several objects of a node, take the last object
(or all but one, whose entry is not the cached one) from a node by a change of the node name, or
replace the only object of a node by a version with smaller generations. -/
def Keeps (w : World) : Delivery → Prop
  | .added _ => True
  | .updated old new =>
      if new.spec.nodeName = old.spec.nodeName then
        othersAt w old.name old.spec.nodeName = ∅ → generations old ≤ generations new
      else (othersAt w old.name old.spec.nodeName).Nonempty ∧
        ∀ o, othersAt w old.name old.spec.nodeName = {o} →
          BuiltFrom o (w.store.entries.lookup old.spec.nodeName)
  | .deleted o _ => othersAt w o.name o.spec.nodeName = ∅

/-! ### The live objects after a delivery -/

variable {w : World}

/-- On a node where the name is not live, all live objects are the others. -/
theorem othersAt_eq_liveAt {name n : String}
    (h : ∀ old, w.live.lookup name = some old → n ≠ old.spec.nodeName) :
    othersAt w name n = liveAt w n := by
  ext o
  refine ⟨fun ho => ho.1, fun ho => ⟨ho, ?_⟩⟩
  rintro rfl
  exact h o ho.1 ho.2.symm

theorem othersAt_of_fresh {name : String} (h : w.live.lookup name = none) (n : String) :
    othersAt w name n = liveAt w n :=
  othersAt_eq_liveAt fun old hold => by rw [h] at hold; cases hold

theorem othersAt_of_elsewhere {name n : String} {old : AcceleratorTopology}
    (h : w.live.lookup name = some old) (hn : n ≠ old.spec.nodeName) :
    othersAt w name n = liveAt w n :=
  othersAt_eq_liveAt fun o ho => by rw [h] at ho; cases ho; exact hn

theorem liveAt_eq_insert {name : String} {old : AcceleratorTopology}
    (h : w.live.lookup name = some old) :
    liveAt w old.spec.nodeName = insert old (othersAt w name old.spec.nodeName) := by
  have hname := w.named name old h
  ext o
  rw [Set.mem_insert_iff]
  constructor
  · intro ho
    by_cases hn : o.name = name
    · left
      have hlook := ho.1
      rw [hn, h] at hlook
      exact (Option.some.inj hlook).symm
    · exact .inr ⟨ho, hn⟩
  · rintro (rfl | ho)
    · exact ⟨by rw [hname, h], rfl⟩
    · exact ho.1

/-- After a version is delivered it is live at its node, and the other objects stay. -/
theorem liveAt_insert {w' : World} {o : AcceleratorTopology}
    (hlive : w'.live = w.live.insert o.name o) (n : String) :
    liveAt w' n = if n = o.spec.nodeName then insert o (othersAt w o.name n)
      else othersAt w o.name n := by
  ext x
  have hx : x ∈ liveAt w' n ↔
      (x = o ∧ n = o.spec.nodeName) ∨ x ∈ othersAt w o.name n := by
    unfold othersAt liveAt
    simp only [Set.mem_ofPred_eq, hlive, lookup_insert_ite]
    by_cases hname : x.name = o.name
    · rw [if_pos hname]
      constructor
      · rintro ⟨ho, hn⟩
        cases ho
        exact .inl ⟨rfl, hn.symm⟩
      · rintro (⟨rfl, hn⟩ | ⟨_, hne⟩)
        · exact ⟨rfl, hn.symm⟩
        · exact absurd hname hne
    · rw [if_neg hname]
      constructor
      · exact fun h => .inr ⟨h, hname⟩
      · rintro (⟨rfl, _⟩ | ⟨h, _⟩)
        · exact absurd rfl hname
        · exact h
  rw [hx]
  split_ifs with hn
  · rw [Set.mem_insert_iff]
    tauto
  · tauto

theorem liveAt_erase {w' : World} {name : String} (hlive : w'.live = w.live.erase name)
    (n : String) : liveAt w' n = othersAt w name n := by
  ext x
  unfold othersAt liveAt
  simp only [Set.mem_ofPred_eq, hlive, lookup_erase_ite]
  by_cases hname : x.name = name <;> simp [hname]

/-! ### One delivery -/

/-- Only nodes without an entry read as missing. -/
theorem get_missing_iff (w : World) (n : String) (now : Time) (ttl : Duration) :
    (w.store.get n now ttl).availability = .missing ↔ w.store.entries.lookup n = none := by
  cases hl : w.store.entries.lookup n with
  | none => exact ⟨fun _ => rfl, fun _ => Store.get_of_lookup_none hl now ttl⟩
  | some r =>
      obtain ⟨o, snapshot, rfl⟩ := w.built n r hl
      have hbuilt : (resultOf o snapshot).availability ≠ .missing := by
        simp only [resultOf]
        split_ifs <;> simp
      have hne : (w.store.get n now ttl).availability ≠ .missing := by
        simp only [Store.get, hl]
        split_ifs
        · exact hbuilt
        · simp
        · exact hbuilt
      exact ⟨fun h => absurd h hne, fun h => by cases h⟩

theorem reflects_iff_mirrors (w : World) :
    Reflects w ↔ ∀ n, Mirrors (liveAt w n) (w.store.entries.lookup n) := by
  unfold Reflects Mirrors
  refine forall_congr' fun n => and_congr ?_ Iff.rfl
  simp only [get_missing_iff]
  exact ⟨fun h => h 0 0, fun h _ _ => h⟩

theorem reflects_added {o : AcceleratorTopology} (h : Reflects w) (hv : Valid w (.added o)) :
    Reflects (w.step (.added o)) := by
  obtain ⟨hfresh, snapshot, hs⟩ := hv
  rw [reflects_iff_mirrors] at h ⊢
  intro n
  rw [liveAt_insert rfl, othersAt_of_fresh hfresh]
  have hstore : (w.step (.added o)).store = (w.store.upsert (some o)).2 := handle_add _ _
  rw [hstore, lookup_upsert _ hs]
  split_ifs with hn
  · refine (h n).insert ?_ hs
    intro ho
    rw [ho.1] at hfresh
    cases hfresh
  · exact h n

theorem reflects_updated_iff {old new : AcceleratorTopology} (h : Reflects w)
    (hv : Valid w (.updated old new)) :
    Reflects (w.step (.updated old new)) ↔ Keeps w (.updated old new) := by
  obtain ⟨hold, snapshot, hs⟩ := hv
  have hname : old.name = new.name := w.named _ _ hold
  have hnew : ∀ n, new ∉ othersAt w new.name n := fun n hmem => hmem.2 rfl
  rw [reflects_iff_mirrors] at h ⊢
  have hM : ∀ n, Mirrors (liveAt (w.step (.updated old new)) n)
      ((w.step (.updated old new)).store.entries.lookup n) ↔
      if n = new.spec.nodeName then Mirrors (insert new (othersAt w new.name n))
        (accept (w.store.entries.lookup n) (resultOf new snapshot))
      else Mirrors (othersAt w new.name n) (w.store.entries.lookup n) := by
    intro n
    have hstore : (w.step (.updated old new)).store = (w.store.upsert (some new)).2 :=
      handle_update _ _ _
    rw [liveAt_insert rfl, hstore, lookup_upsert _ hs]
    split_ifs <;> rfl
  have hfrom := h old.spec.nodeName
  rw [liveAt_eq_insert hold] at hfrom
  -- nodes that the delivery does not name
  have helse : ∀ n, n ≠ old.spec.nodeName →
      Mirrors (othersAt w new.name n) (w.store.entries.lookup n) := by
    intro n hn
    rw [othersAt_of_elsewhere hold hn]
    exact h n
  simp only [hM, Keeps, hname]
  split_ifs with hsame
  · rw [← hfrom.replace_iff (hnew _) hs, ← hsame]
    constructor
    · intro hall
      have hat := hall new.spec.nodeName
      rw [if_pos rfl] at hat
      exact hat
    · intro hat n
      split_ifs with hn
      · rw [hn]
        exact hat
      · exact helse n (hsame ▸ hn)
  · rw [← hfrom.leave_iff]
    constructor
    · intro hall
      have hat := hall old.spec.nodeName
      rw [if_neg (Ne.symm hsame)] at hat
      exact hat
    · intro hat n
      split_ifs with hn
      · exact (helse n (hn ▸ hsame)).insert (hnew n) hs
      · by_cases hn' : n = old.spec.nodeName
        · rw [hn']
          exact hat
        · exact helse n hn'

theorem reflects_deleted_iff {o : AcceleratorTopology} {missed : Bool} (h : Reflects w)
    (hv : Valid w (.deleted o missed)) :
    Reflects (w.step (.deleted o missed)) ↔ Keeps w (.deleted o missed) := by
  obtain ⟨last, hlast, hnode⟩ := hv
  rw [reflects_iff_mirrors] at h ⊢
  have hstore : (w.step (.deleted o missed)).store = w.store.delete o.spec.nodeName := by
    cases missed <;> rfl
  have hlive : ∀ n, liveAt (w.step (.deleted o missed)) n = othersAt w o.name n :=
    liveAt_erase rfl
  simp only [hlive, hstore, lookup_delete, Keeps]
  constructor
  · intro hall
    have hat := hall o.spec.nodeName
    rw [if_pos rfl, mirrors_none_iff] at hat
    exact hat
  · intro hempty n
    split_ifs with hn
    · rw [mirrors_none_iff, hn]
      exact hempty
    · rw [othersAt_of_elsewhere hlast (hnode ▸ hn)]
      exact h n

/-- A delivery keeps the reflection exactly if it meets `Keeps`. -/
theorem reflects_step_iff (w : World) (d : Delivery) (h : Reflects w) (hv : Valid w d) :
    Reflects (w.step d) ↔ Keeps w d := by
  cases d with
  | added o => exact ⟨fun _ => trivial, fun _ => reflects_added h hv⟩
  | updated old new => exact reflects_updated_iff h hv
  | deleted o missed => exact reflects_deleted_iff h hv

theorem reflects_start : Reflects World.start := by
  rw [reflects_iff_mirrors]
  intro n
  have hempty : liveAt World.start n = ∅ := by
    ext o
    simp [liveAt, World.start]
  have hnone : World.start.store.entries.lookup n = none := by simp [World.start, newStore]
  rw [hempty, hnone, mirrors_none_iff]

/-- **When the cache reflects its informer.**  Over every history of deliveries with valid
specs: the cache reflects the live objects after every prefix if and only if no delivery
deletes one of several objects of a node, changes a node name against the cached entry, or
replaces the only object of a node by a version with smaller generations. -/
theorem reflects_iff (ds : List Delivery) (hvalid : Runs.Along World.step Valid World.start ds) :
    (∀ before after, ds = before ++ after → Reflects (Runs.run World.step World.start before)) ↔
      Runs.Along World.step Keeps World.start ds :=
  Runs.always_iff_along Reflects reflects_step_iff ds World.start reflects_start hvalid

end world

/-- An object of the node `worker` under the given name. -/
def sampleObject (name : String) (generation : ℤ) : AcceleratorTopology :=
  { sampleTopology generation (sampleSpec [sampleDevice "gpu0"] []) with name := name }

/-- An object is added and updated to its next generation. -/
theorem reflects_after_update :
    let : Kube := sampleKube
    let ds : List Delivery := [.added (sampleObject "a" 1),
      .updated (sampleObject "a" 1) (sampleObject "a" 2)]
    Reflects (Runs.run World.step World.start ds) := by
  intro kube ds
  have hvalid : Runs.Along World.step Valid World.start ds :=
    ⟨⟨by decide, _, rfl⟩, ⟨by decide, _, rfl⟩, trivial⟩
  have hkeeps : Runs.Along World.step Keeps World.start ds := by
    refine ⟨trivial, ?_, trivial⟩
    have hsame : (sampleObject "a" 2).spec.nodeName = (sampleObject "a" 1).spec.nodeName := rfl
    rw [Keeps, if_pos hsame]
    exact fun _ => by decide
  exact (reflects_iff ds hvalid).mpr hkeeps ds [] (List.append_nil ds).symm

/-- Two objects carry the same node name; when one is deleted, the node goes missing although
the other is still live. -/
theorem delete_hides_live_object :
    ¬ ∀ (_ : Kube) (ds : List Delivery), Runs.Along World.step Valid World.start ds →
      ∀ before after, ds = before ++ after →
        Reflects (Runs.run World.step World.start before) := by
  intro h
  let : Kube := sampleKube
  let ds : List Delivery := [.added (sampleObject "a" 1), .added (sampleObject "b" 1),
    .deleted (sampleObject "a" 1) false]
  have hvalid : Runs.Along World.step Valid World.start ds :=
    ⟨⟨by decide, _, rfl⟩, ⟨by decide, _, rfl⟩, ⟨_, by decide, rfl⟩, trivial⟩
  have hreflects := h sampleKube ds hvalid ds [] rfl "worker"
  have hmissing : ((Runs.run World.step World.start ds).store.get "worker" 1 0).availability =
      .missing := by decide
  have hempty := (hreflects.1 1 0).mp hmissing
  have hlive : sampleObject "b" 1 ∈ liveAt (Runs.run World.step World.start ds) "worker" :=
    ⟨by decide, rfl⟩
  rw [hempty] at hlive
  exact hlive

end AcceleratorFabric.Topology.Informer
