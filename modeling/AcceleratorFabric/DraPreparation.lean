import AcceleratorFabric.DraAtomicity

/-! # Where a preparation stops

A new preparation writes the CDI file and then the state file, each over a temporary file.  What it
leaves on the disk depends on how far it comes: which of its file requests are served, which fail,
and where the machine stops.

* `WriteEnds`: how an `atomicWrite` in front of the rest of a program ends.
* `Event.CdiPlaced`, `Event.RecordStored`, `Event.CdiRemoved`: the fate of the numbered requests.
* `Driver.prepareNew_stop`: what a new preparation leaves, by that fate. -/

namespace AcceleratorFabric.Dra

open GoMap FaultyDisk

variable {C : Type} {cfg : Config} [Json C]

/-! ### One write -/

section stops

variable {crash : Option ℕ} {faults : List (Option (Fault C String))} {disk : Disk String C}

/-- How `atomicWrite`, from request `n` on, ends before the rest of a program: the file is
replaced; or one of the two requests fails and the rest goes on with the error; or the machine
stops on the way.  Only in the first case another file than the temporary one has changed. -/
inductive WriteEnds {β : Type} (path : String) (content : C)
    (rest : Except (FileError String) Unit → Program C β) (crash : Option ℕ)
    (faults : List (Option (Fault C String))) (n : ℕ) (disk final : Disk String C) : Prop where
  | replaced (disk' : Disk String C)
      (served : Served crash faults n ∧ Served crash faults (n + 1))
      (file : disk'.lookup path = some content)
      (others : ∀ x, x ≠ path → x ≠ temporary path → disk'.lookup x = disk.lookup x)
      (ends : final = (rest (.ok ())).stop crash faults (n + 2) disk')
  | failed (m : ℕ) (e : FileError String) (disk' : Disk String C)
      (fails : m = n + 1 ∧ Failed crash faults n ∨
        m = n + 3 ∧ Served crash faults n ∧ Failed crash faults (n + 1))
      (others : ∀ x, x ≠ temporary path → disk'.lookup x = disk.lookup x)
      (ends : final = (rest (.error e)).stop crash faults m disk')
  | stopped (early : ¬ Reached crash (n + 2))
      (unserved : ¬ (Served crash faults n ∧ Served crash faults (n + 1)))
      (unfailed : ¬ Failed crash faults n)
      (others : ∀ x, x ≠ temporary path → final.lookup x = disk.lookup x)

omit [Json C] in
variable (crash faults disk) in
theorem writeEnds_atomicWrite {β : Type} (path : String) (content : C)
    (rest : Except (FileError String) Unit → Program C β) (n : ℕ) :
    WriteEnds path content rest crash faults n disk
      (((atomicWrite path content).bind rest).stop crash faults n disk) := by
  by_cases hwrite : Reached crash n
  swap
  · rw [Prog.stop_of_not_reached hwrite]
    exact .stopped (fun h => hwrite (h.mono (by omega))) (fun h => hwrite h.1.1)
      (fun h => hwrite h.1) fun _ _ => rfl
  unfold atomicWrite
  simp only [Prog.bind_eq, Prog.request, Prog.bind, Prog.pure_eq]
  rw [Prog.stop_call hwrite]
  cases hfault : faults.getD n none with
  | some f =>
      refine .failed (n + 1) (.failed f.error) (insertSome disk (temporary path) f.left)
        (.inl ⟨rfl, hwrite, by rw [hfault]; simp⟩) (fun x hx => ?_) rfl
      rw [lookup_insertSome, if_neg hx]
  | none =>
      have hserved : Served crash faults n := ⟨hwrite, hfault⟩
      have hothers : ∀ x, x ≠ temporary path →
          (disk.insert (temporary path) content).lookup x = disk.lookup x := fun x hx => by
        rw [lookup_insert_ite, if_neg hx]
      simp only [serve, Prog.bind]
      by_cases hrename : Reached crash (n + 1)
      swap
      · rw [Prog.stop_of_not_reached hrename]
        exact .stopped (fun h => hrename (h.mono (by omega))) (fun h => hrename h.2.1)
          hserved.not_failed hothers
      rw [Prog.stop_call hrename]
      cases hfault' : faults.getD (n + 1) none with
      | none =>
          have hmoved : serve (none : Option (Fault C String))
              (disk.insert (temporary path) content) (.rename (temporary path) path) =
                (.ok (), ((disk.insert (temporary path) content).erase (temporary path)).insert path
                  content) := by
            simp [serve]
          rw [hmoved]
          refine .replaced _ ⟨hserved, hrename, hfault'⟩ ?_ (fun x hfile htmp => ?_) rfl
          · rw [lookup_insert_ite, if_pos rfl]
          · rw [lookup_insert_ite, if_neg hfile, lookup_erase_ite, if_neg htmp, hothers x htmp]
      | some f =>
          have hfailed : Failed crash faults (n + 1) := ⟨hrename, by rw [hfault']; simp⟩
          simp only [serve, Prog.bind]
          by_cases hclean : Reached crash (n + 2)
          · rw [Prog.stop_call hclean]
            refine .failed (n + 3) (.failed f.error) _ (.inr ⟨rfl, hserved, hfailed⟩)
              (fun x hx => ?_) rfl
            rw [lookup_serve _ _ _ (by simpa [Request.writes] using hx), hothers x hx]
          · rw [Prog.stop_of_not_reached hclean]
            exact .stopped hclean (fun h => h.2.not_failed hfailed) hserved.not_failed hothers

omit [Json C] in
theorem stop_remove {β : Type} (crash : Option ℕ) (faults : List (Option (Fault C String)))
    (file : String) (b : β) (n : ℕ)
    (hexists : disk.lookup file ≠ none) :
    ((((Prog.request (.remove file) : Program C _).bind fun _ => .done b).stop crash faults n
      disk).lookup file = none ↔ Served crash faults n) ∧
    ∀ x, x ≠ file → (((Prog.request (.remove file) : Program C _).bind fun _ => .done b).stop crash
      faults n disk).lookup x = disk.lookup x := by
  by_cases hreached : Reached crash n
  swap
  · rw [Prog.stop_of_not_reached hreached]
    exact ⟨iff_of_false hexists fun h => hreached h.1, fun _ _ => rfl⟩
  simp only [Prog.request, Prog.bind]
  rw [Prog.stop_call hreached, Prog.stop_done]
  cases hfault : faults.getD n none with
  | some f =>
      refine ⟨iff_of_false hexists fun h => ?_, fun _ _ => rfl⟩
      cases hfault.symm.trans h.2
  | none =>
      obtain ⟨content, hcontent⟩ := Option.ne_none_iff_exists'.mp hexists
      have herased : (serve (none : Option (Fault C String)) disk (.remove file)).2 =
          disk.erase file := by
        simp only [serve, hcontent]
      rw [herased]
      refine ⟨iff_of_true ?_ ⟨hreached, hfault⟩, fun x hx => ?_⟩
      · rw [lookup_erase_ite, if_pos rfl]
      · rw [lookup_erase_ite, if_neg hx]

end stops

/-! ### A new preparation

The file requests of `prepareClaim` for a new claim, in order: the temporary CDI file is written
(0) and renamed (1), then the temporary state file is written (2) and renamed (3).  If request 2
fails, the CDI file is removed (3); if request 3 fails, the temporary state file is removed (4) and
then the CDI file (5). -/

/-- The CDI file is put in place. -/
def Event.CdiPlaced (e : Event C) : Prop :=
  Served e.crash e.faults 0 ∧ Served e.crash e.faults 1

/-- The record is stored. -/
def Event.RecordStored (e : Event C) : Prop :=
  Served e.crash e.faults 2 ∧ Served e.crash e.faults 3

/-- The record could not be stored and the CDI file is removed again. -/
def Event.CdiRemoved (e : Event C) : Prop :=
  Failed e.crash e.faults 2 ∧ Served e.crash e.faults 3 ∨
    Served e.crash e.faults 2 ∧ Failed e.crash e.faults 3 ∧ Served e.crash e.faults 5

namespace Driver

theorem prepareNew_eq (d : Driver cfg) (p : PreparedClaim) : ∃ rest rest',
    (d.prepareNew p : Program C _) =
      (atomicWrite p.cdiFile (Json.encodeSpec (cdiSpec cfg p))).bind rest ∧
    (∀ e, ∃ result, rest (.error e) = .done result) ∧
    rest (.ok ()) = (atomicWrite cfg.statePath
      (Json.encodeState ⟨stateVersion, (d.record p.uid p).prepared⟩)).bind rest' ∧
    (∀ e, ∃ result, rest' (.error e) =
      (Prog.request (.remove p.cdiFile)).bind fun _ => .done result) ∧
    ∃ result, rest' (.ok ()) = .done result := by
  refine ⟨_, _, Prog.bind_assoc _ _ _, fun e => ⟨_, rfl⟩, Prog.bind_assoc _ _ _,
    fun e => ⟨_, rfl⟩, ⟨_, rfl⟩⟩

/-- The second half of a new preparation, once the CDI file is in place. -/
theorem prepareNew_stored (d : Driver cfg) {p : PreparedClaim}
    (hcdi : p.cdiFile = cdiFile cfg p.uid) (hapart : Apart cfg p.cdiFile) (e : Event C)
    {β : Type} {rest : Except (FileError String) Unit → Program C β} {result : β}
    (hplaced : e.CdiPlaced)
    (herror : ∀ cause, ∃ result, rest (.error cause) =
      (Prog.request (.remove p.cdiFile)).bind fun _ => .done result)
    (hok : rest (.ok ()) = .done result) {disk disk₁ final : Disk String C}
    (hexists : disk₁.lookup p.cdiFile ≠ none)
    (hstate : disk₁.lookup cfg.statePath = disk.lookup cfg.statePath)
    (hends : WriteEnds cfg.statePath (Json.encodeState ⟨stateVersion, (d.record p.uid p).prepared⟩)
      rest e.crash e.faults 2 disk₁ final) :
    (e.CdiPlaced ∧ e.RecordStored ∧ Stored cfg (d.record p.uid p).prepared final) ∨
    (e.CdiPlaced ∧ ¬ e.RecordStored ∧ (final.lookup p.cdiFile = none ↔ e.CdiRemoved) ∧
      final.lookup cfg.statePath = disk.lookup cfg.statePath) := by
  have htmp : p.cdiFile ≠ temporary cfg.statePath := hcdi ▸ cdiFile_ne_temporary cfg _ _
  cases hends with
  | replaced disk₂ hserved hfile hothers hends =>
      rw [hends, hok, Prog.stop_done]
      exact .inl ⟨hplaced, hserved, stored_encodeState hfile⟩
  | stopped hearly hunserved hunfailed hothers =>
      refine .inr ⟨hplaced, hunserved, iff_of_false ?_ ?_, ?_⟩
      · rw [hothers _ htmp]
        exact hexists
      · rintro (⟨hfailed, _⟩ | ⟨_, _, hremoved⟩)
        · exact hunfailed hfailed
        · exact hearly (hremoved.1.mono (by omega))
      · rw [hothers _ (ne_temporary _), hstate]
  | failed m cause disk₂ hfails hothers hends =>
      obtain ⟨result, hresult⟩ := herror cause
      obtain ⟨hremoved, hrest⟩ := stop_remove e.crash e.faults p.cdiFile result m
        (show disk₂.lookup p.cdiFile ≠ none by rw [hothers _ htmp]; exact hexists)
      rw [hends, hresult]
      refine .inr ⟨hplaced, ?_, hremoved.trans ?_, ?_⟩
      · rintro ⟨h2, h3⟩
        rcases hfails with ⟨_, hfailed⟩ | ⟨_, _, hfailed⟩
        · exact h2.not_failed hfailed
        · exact h3.not_failed hfailed
      · -- the CDI file is removed by request 3 or by request 5
        rcases hfails with ⟨rfl, hfailed⟩ | ⟨rfl, hserved, hfailed⟩
        · refine ⟨fun h => .inl ⟨hfailed, h⟩, ?_⟩
          rintro (⟨_, h⟩ | ⟨hserved, _⟩)
          · exact h
          · exact absurd hfailed hserved.not_failed
        · refine ⟨fun h => .inr ⟨hserved, hfailed, h⟩, ?_⟩
          rintro (⟨hfailed', _⟩ | ⟨_, _, h⟩)
          · exact absurd hfailed' hserved.not_failed
          · exact h
      · rw [hrest _ hapart.1, hothers _ (ne_temporary _), hstate]

/-- **What a new preparation leaves**, by the fate of its requests: nothing has changed; or the
record is stored; or there is no record, and the CDI file is there unless it was removed. -/
theorem prepareNew_stop (d : Driver cfg) {p : PreparedClaim}
    (hcdi : p.cdiFile = cdiFile cfg p.uid) (hapart : Apart cfg p.cdiFile) (e : Event C)
    (disk : Disk String C) :
    (¬ e.CdiPlaced ∧
      ((d.prepareNew p).stop e.crash e.faults 0 disk).lookup p.cdiFile = disk.lookup p.cdiFile ∧
      ((d.prepareNew p).stop e.crash e.faults 0 disk).lookup cfg.statePath =
        disk.lookup cfg.statePath) ∨
    (e.CdiPlaced ∧ e.RecordStored ∧
      Stored cfg (d.record p.uid p).prepared ((d.prepareNew p).stop e.crash e.faults 0 disk)) ∨
    (e.CdiPlaced ∧ ¬ e.RecordStored ∧
      (((d.prepareNew p).stop e.crash e.faults 0 disk).lookup p.cdiFile = none ↔ e.CdiRemoved) ∧
      ((d.prepareNew p).stop e.crash e.faults 0 disk).lookup cfg.statePath =
        disk.lookup cfg.statePath) := by
  obtain ⟨rest, rest', hprepare, herror, hok, herror', result, hok'⟩ := d.prepareNew_eq (C := C) p
  rw [hprepare]
  cases writeEnds_atomicWrite e.crash e.faults disk p.cdiFile (Json.encodeSpec (cdiSpec cfg p))
    rest 0 with
  | stopped hearly hunserved hunfailed hothers =>
      exact .inl ⟨hunserved, hothers _ (ne_temporary _), hothers _ hapart.2⟩
  | failed m cause disk₁ hfails hothers hends =>
      obtain ⟨result, hresult⟩ := herror cause
      rw [hends, hresult, Prog.stop_done]
      refine .inl ⟨?_, hothers _ (ne_temporary _), hothers _ hapart.2⟩
      rintro ⟨h0, h1⟩
      rcases hfails with ⟨_, hfailed⟩ | ⟨_, _, hfailed⟩
      · exact h0.not_failed hfailed
      · exact h1.not_failed hfailed
  | replaced disk₁ hplaced hfile hothers hends =>
      have hexists : disk₁.lookup p.cdiFile ≠ none := by rw [hfile]; simp
      have hstate : disk₁.lookup cfg.statePath = disk.lookup cfg.statePath :=
        hothers _ hapart.1 hapart.2
      rw [hends, hok]
      exact .inr (d.prepareNew_stored hcdi hapart e hplaced herror' hok' hexists hstate
        (writeEnds_atomicWrite e.crash e.faults disk₁ cfg.statePath _ rest' 2))

end Driver

end AcceleratorFabric.Dra
