import FatImage.Proofs.Contained

/-!
# Stopping at the first failure

Every loop of a run may be interrupted by the device, and each of them hands
the failure on: nothing is tried again, nothing more is transferred. What
comes behind the failure is one call to flush and nothing else.

To say so call by call, a run on a disk that refuses calls is held against
the run on the same disk that refuses none. The two are coupled: they are
together up to the first call that is refused, and from there on one has
stopped and the other goes on, so that the calls of the first are those of
the second up to this call. Whether a flush comes through or not can change
the answer of a run that went well and of no other.
-/

namespace FatImage

variable {σ φ τ : Type} {d : Device σ} {l : Layout} {m : Manifest} {sectors : Nat}

/-- The calls up to the flush where none of these transfers was refused. -/
def carriedOut (transfers : List Call) : List (Call × Bool) :=
  (.count, true) :: transfers.map (·, true)

/-- The calls and the answer of a run on a disk that may refuse calls, where the
run on a disk that refuses none makes these transfers and answers `r₀`. -/
inductive FailStop (transfers : List Call) (r₀ : Except VolumeError Report) :
    List (Call × Bool) → Except VolumeError Report → Prop where
  | flushed : FailStop transfers r₀ (carriedOut transfers ++ [(.flush, true)]) r₀
  | unflushed : FailStop transfers r₀ (carriedOut transfers ++ [(.flush, false)])
      (r₀.bind fun _ => .error .deviceFailed)
  | stopped {before after : List Call} {c : Call} {done : Bool}
      (h : transfers = before ++ c :: after) : FailStop transfers r₀
      (carriedOut before ++ [(c, false), (.flush, done)]) (.error .deviceFailed)

/-! ## The run that is refused nothing -/

/-- A disk of so many bytes has been asked for its size and for transfers inside
of the volume, and has refused none of them. -/
def Traffic.Carried (l : Layout) (sectors size : Nat) (v : Traffic (ByteArray × τ)) : Prop :=
  v.state.1.size = size ∧ ∃ transfers : List Call, (∀ c ∈ transfers, l.Contains sectors c) ∧
    v.calls = carriedOut transfers

theorem maintains_carried (load : Loader τ) {size : Nat}
    (hsize : size / l.sectorSize = sectors) :
    Machine.Maintains ⟨(Device.memory l.sectorSize).beside τ, load.source⟩
      (l.Contains sectors) (Traffic.Carried l sectors size) where
  whole _ h := ((Device.readsWhole_memory l.sectorSize).beside τ).size h
  done {c v a s} hc hv hd := by
    obtain ⟨hdisk, transfers, hall, hcalls⟩ := hv
    simp only [Device.beside, Prod.mk.injEq] at hd
    obtain ⟨ha, rfl⟩ := hd
    refine ⟨?_, transfers ++ [c], ?_, ?_⟩
    · rw [← hdisk]
      exact Device.size_memory (Prod.ext ha rfl)
    · intro c' hc'
      rcases List.mem_append.1 hc' with hc' | hc'
      · exact hall c' hc'
      · rw [List.mem_singleton.1 hc']
        exact hc
    · rw [carriedOut, List.map_append, hcalls]
      rfl
  refused {c v why s} hc hv hd := by
    have hfits : v.state.1.size / l.sectorSize = sectors := by rw [hv.1, hsize]
    obtain ⟨a, disk', hok⟩ := Layout.Contains.carried_out (Or.inr (Or.inr hc)) hfits
    simp only [Device.beside, hok, Prod.mk.injEq] at hd
    cases hd.1
  load hv := Loader.ends_load fun _ => hv

/-! ## Both runs -/

/-- Two machines with the same disk and the same loader, the first of which may
refuse a call; then the calls are the same up to this one. -/
def Coupling.failStop (g : σ → ByteArray) : Coupling (σ × τ) (ByteArray × τ) where
  together v v' := g v.state.1 = v'.state.1 ∧ v.state.2 = v'.state.2 ∧ v.calls = v'.calls
  apart v v' := ∃ (before : List (Call × Bool)) (c : Call) (done : Bool)
    (rest : List (Call × Bool)), c ≠ .count ∧ v.calls = before ++ [(c, false)] ∧
      v'.calls = before ++ (c, done) :: rest

theorem Coupling.failStop_push {g : σ → ByteArray} {v : Traffic (σ × τ)}
    {v' : Traffic (ByteArray × τ)} (h : (Coupling.failStop g).apart v v')
    (s : ByteArray × τ) (c : Call) (done : Bool) :
    (Coupling.failStop g).apart v ⟨s, v'.calls ++ [(c, done)]⟩ := by
  obtain ⟨before, c₁, done₁, rest, hc₁, hv, hv'⟩ := h
  refine ⟨before, c₁, done₁, rest ++ [(c, done)], hc₁, hv, ?_⟩
  rw [hv', List.append_assoc, List.cons_append]

theorem Coupling.failStop_perform {g : σ → ByteArray} {faulty : Prop}
    (hkeeps : (d.beside τ).Keeps (fun s => (g s.1, s.2)) faulty) {c : Call}
    (hcount : c ≠ .count) {w : World (σ × τ)} {w' : World (ByteArray × τ)}
    (hw : (Coupling.failStop g).together w.traffic w'.traffic) :
    (Coupling.failStop g).Ended ((d.beside τ).perform c)
      (((Device.memory d.sectorSize).beside τ).perform c) w w' := by
  obtain ⟨hdisk, haside, hcalls⟩ :
    g w.state.1 = w'.state.1 ∧ w.state.2 = w'.state.2 ∧ w.calls = w'.calls := hw
  rcases (d.beside τ).outcome_perform c w with
    ⟨a, s, w₁, hd, hx, hw₁⟩ | ⟨why, s, w₁, -, hx, hw₁⟩
  · obtain ⟨hdone, haside₁⟩ := hkeeps.done hd
    have hanswer : (Device.memory d.sectorSize).answer c w'.state.1 = (.ok a, g s.1) := by
      rw [← hdisk]
      exact hdone
    have hd₀ : ((Device.memory d.sectorSize).beside τ).answer c w'.state =
        (.ok a, (g s.1, w'.state.2)) := by
      simp only [Device.beside, hanswer]
    rcases ((Device.memory d.sectorSize).beside τ).outcome_perform c w' with
      ⟨a', s', w₁', hd', hy, hw₁'⟩ | ⟨why', s', w₁', hd', -, -⟩
    · rw [hd₀, Prod.mk.injEq, Except.ok.injEq] at hd'
      obtain ⟨rfl, rfl⟩ := hd'
      refine .both hx hy ?_
      rw [hw₁, hw₁']
      exact ⟨rfl, haside₁.trans haside, by rw [hcalls]⟩
    · rw [hd₀] at hd'
      cases hd'
  · -- the first has stopped, whatever the second is answered
    have hapart : ∀ (done : Bool) (s' : ByteArray × τ), (Coupling.failStop g).apart
        w₁.traffic ⟨s', w'.calls ++ [(c, done)]⟩ := by
      intro done s'
      rw [hw₁, ← hcalls]
      exact ⟨w.calls, c, done, [], hcount, rfl, rfl⟩
    rcases ((Device.memory d.sectorSize).beside τ).outcome_perform c w' with
      ⟨a', s', w₁', -, hy, hw₁'⟩ | ⟨why', s', w₁', -, hy, hw₁'⟩
    · exact .first hx hy (by rw [hw₁']; exact hapart true s')
    · exact .first hx hy (by rw [hw₁']; exact hapart false s')

theorem joins_failStop {g : σ → ByteArray} {faulty : Prop}
    (hkeeps : (d.beside τ).Keeps (fun s => (g s.1, s.2)) faulty) (load : Loader τ) :
    (Coupling.failStop g).Joins ⟨d.beside τ, load.source⟩
      ⟨(Device.memory d.sectorSize).beside τ, load.source⟩ (l.Contains sectors) where
  transfer {c w w'} hc hw := by
    refine Coupling.failStop_perform hkeeps ?_ hw
    rintro rfl
    exact hc
  load {e w w'} hw := by
    obtain ⟨hdisk, haside, hcalls⟩ :
      g w.state.1 = w'.state.1 ∧ w.state.2 = w'.state.2 ∧ w.calls = w'.calls := hw
    have hy := load.outcome_load e w'
    rw [← haside] at hy
    exact .both (load.outcome_load e w) hy ⟨hdisk, rfl, hcalls⟩
  whole _ h := ((Device.readsWhole_memory d.sectorSize).beside τ).size h
  alone v := {
    whole := fun _ h => ((Device.readsWhole_memory d.sectorSize).beside τ).size h
    done := fun _ hv _ => Coupling.failStop_push hv _ _ _
    refused := fun _ hv _ => Coupling.failStop_push hv _ _ _
    load := fun hv => Loader.ends_load fun _ => hv }

theorem Coupling.exists_before {g : σ → ByteArray} {transfers : List Call}
    {v : Traffic (σ × τ)} {v' : Traffic (ByteArray × τ)}
    (h : (Coupling.failStop g).apart v v') (hcalls : v'.calls = carriedOut transfers) :
    ∃ before c after, transfers = before ++ c :: after ∧
      v.calls = carriedOut before ++ [(c, false)] := by
  obtain ⟨front, c, done, rest, hc, hv, hv'⟩ := h
  rw [hv', carriedOut] at hcalls
  cases front with
  | nil =>
      -- the second run begins with the count, and that is not where they parted
      rw [List.nil_append, List.cons.injEq, Prod.mk.injEq] at hcalls
      exact absurd hcalls.1.1 hc
  | cons p front =>
      rw [List.cons_append, List.cons.injEq] at hcalls
      obtain ⟨rfl, hmap⟩ := hcalls
      obtain ⟨before, rest', rfl, rfl, hrest⟩ := List.map_eq_append_iff.1 hmap.symm
      obtain ⟨c', after, rfl, hc', -⟩ := List.map_eq_cons_iff.1 hrest
      cases hc'
      exact ⟨before, c, after, rfl, hv⟩

/-! ## Filling a disk -/

namespace Volume

variable {vol₀ : Volume (ByteArray × τ)} {w₀ w₁ : World (ByteArray × τ)} {size : Nat}

theorem carried_run (load : Loader τ)
    (hdevice : vol₀.image.device = (Device.memory vol₀.layout.sectorSize).beside τ)
    (hspans : vol₀.image.Spans vol₀.layout sectors)
    (hsize : size / vol₀.layout.sectorSize = sectors)
    (hw₀ : w₀.traffic.Carried vol₀.layout sectors size) {r : Except VolumeError Report}
    (hbody : (vol₀.runUnflushed m load.source).outcome w₀ = (r, w₁)) :
    ∃ (transfers : List Call) (w₂ : World (ByteArray × τ)),
      (∀ c ∈ transfers, vol₀.layout.Contains sectors c) ∧
      w₁.calls = carriedOut transfers ∧ (vol₀.run m load.source).outcome w₀ = (r, w₂) ∧
      w₂.calls = carriedOut transfers ++ [(.flush, true)] := by
  have hcarried := (maintains_carried load hsize).ends (alike_runUnflushed hspans.allows m) hw₀
  rw [on_of_device hdevice] at hcarried
  obtain ⟨-, transfers, hall, hcalls⟩ := hcarried.of_outcome rfl hbody
  have hcalls₁ : w₁.calls = carriedOut transfers := hcalls
  obtain ⟨done, w₂, hflush, hcalls₂, hrefused⟩ := outcome_flush vol₀ w₁
  have hrun := outcome_run hbody hflush
  cases done with
  | false =>
      obtain ⟨why, s, hanswer⟩ := hrefused rfl
      rw [hdevice] at hanswer
      cases hanswer
  | true =>
      refine ⟨transfers, w₂, hall, hcalls₁, ?_, by rw [hcalls₂, hcalls₁]⟩
      rw [hrun]
      cases r <;> rfl

theorem failStop_of_ended (load : Loader τ) {g : σ → ByteArray} {vol : Volume (σ × τ)}
    {w : World (σ × τ)}
    (hdevice : vol₀.image.device = (Device.memory vol₀.layout.sectorSize).beside τ)
    (hspans : vol₀.image.Spans vol₀.layout sectors)
    (hsize : size / vol₀.layout.sectorSize = sectors)
    (hw₀ : w₀.traffic.Carried vol₀.layout sectors size)
    (hended : (Coupling.failStop g).Ended (vol.runUnflushed m load.source)
      (vol₀.runUnflushed m load.source) w w₀) :
    ∃ transfers r₀ w₀' r w', (vol₀.run m load.source).outcome w₀ = (r₀, w₀') ∧
      w₀'.calls = carriedOut transfers ++ [(.flush, true)] ∧
      (∀ c ∈ transfers, vol₀.layout.Contains sectors c) ∧
      (vol.run m load.source).outcome w = (r, w') ∧ FailStop transfers r₀ w'.calls r := by
  cases hended with
  | @both r w₁ w₁' hx hy hsame =>
      obtain ⟨transfers, w₂', hall, hcalls', hrun', hcalls₂'⟩ :=
        carried_run load hdevice hspans hsize hw₀ hy
      have hcalls₁ : w₁.calls = carriedOut transfers := hsame.2.2.trans hcalls'
      obtain ⟨done, w₂, hflush, hcalls₂, -⟩ := outcome_flush vol w₁
      refine ⟨transfers, r, w₂', _, w₂, hrun', hcalls₂', hall, outcome_run hx hflush, ?_⟩
      rw [hcalls₂, hcalls₁]
      cases done with
      | false => exact .unflushed
      | true => cases r <;> exact .flushed
  | @first r₀ w₁ w₁' hx hy hapart =>
      obtain ⟨transfers, w₂', hall, hcalls', hrun', hcalls₂'⟩ :=
        carried_run load hdevice hspans hsize hw₀ hy
      obtain ⟨before, c, after, hsplit, hcalls⟩ := Coupling.exists_before hapart hcalls'
      have hcalls₁ : w₁.calls = carriedOut before ++ [(c, false)] := hcalls
      obtain ⟨done, w₂, hflush, hcalls₂, -⟩ := outcome_flush vol w₁
      refine ⟨transfers, r₀, w₂', _, w₂, hrun', hcalls₂', hall, outcome_run hx hflush, ?_⟩
      rw [hcalls₂, hcalls₁, List.append_assoc]
      exact .stopped hsplit

/-- What is mounted on a disk that may refuse calls is also mounted on the disk that
refuses none, and the two machines are together. -/
theorem exists_mounted_together {plan : Device.FaultPlan φ}
    (honest : ∀ s, plan.claims s = none) {sectorSize : Nat} {disk : ByteArray} {s : φ} {t : τ}
    (hdisk : disk.size < Image.greatest) {vol : Volume ((ByteArray × φ) × τ)}
    {w : World ((ByteArray × φ) × τ)}
    (hmount : (Volume.mount (((Device.memory sectorSize).refusing plan).beside τ) l).start
      ((disk, s), t) = (.ok vol, w)) :
    ∃ w₀, (Volume.mount ((Device.memory sectorSize).beside τ) l).start (disk, t) =
        (.ok (vol.on ((Device.memory sectorSize).beside τ)), w₀) ∧
      vol.image.device = ((Device.memory sectorSize).refusing plan).beside τ ∧
      vol.layout = l ∧ sectorSize = l.sectorSize ∧
      vol.image.Spans vol.layout (disk.size / sectorSize) ∧
      (Coupling.failStop Prod.fst).together w.traffic w₀.traffic ∧
      w₀.traffic.Carried l (disk.size / sectorSize) disk.size := by
  obtain ⟨n, hm⟩ := ends_mounted.of_ok (v := ⟨((disk, s), t), []⟩) rfl
    (Action.start_eq_ok.1 hmount)
  have hsector : sectorSize = l.sectorSize := hm.size.2.symm
  subst hsector
  -- both devices tell the true size of the disk
  obtain ⟨hdone, haside⟩ :=
    (((Device.keeps_memory l.sectorSize).refusing honest).beside τ).done hm.count
  have hcount : (Except.ok (disk.size / l.sectorSize), disk) =
      (Except.ok n, w.state.1.1) := hdone
  rw [Prod.mk.injEq, Except.ok.injEq] at hcount
  obtain ⟨rfl, hstate⟩ := hcount
  have hcount₀ : ((Device.memory l.sectorSize).beside τ).answer .count (disk, t) =
      (.ok (disk.size / l.sectorSize), (disk, t)) := rfl
  obtain ⟨w₀, hmount₀, hw₀⟩ := hm.exists_on hcount₀ rfl
  have hcounted := Nat.lt_of_le_of_lt (Nat.div_mul_le_self disk.size l.sectorSize) hdisk
  refine ⟨w₀, hmount₀, hm.device, hm.layout, rfl, hm.spans hcounted, ?_, ?_⟩
  · rw [hw₀]
    exact ⟨hstate.symm, haside, hm.calls⟩
  · rw [hw₀]
    exact ⟨rfl, [], nofun, rfl⟩

end Volume

/-- However a device fails, a run stops at the first call that it is refused, and
flushes; up to this call it does what it would do if nothing failed. -/
theorem fill_failStop (load : Loader τ) {plan : Device.FaultPlan φ}
    (honest : ∀ s, plan.claims s = none) {sectorSize : Nat} {disk : ByteArray} {s : φ} {t : τ}
    (hdisk : disk.size < Image.greatest) :
    (∀ vol w, (Volume.mount (((Device.memory sectorSize).refusing plan).beside τ) l).start
        ((disk, s), t) = (.ok vol, w) →
      ∃ (transfers : List Call) (r₀ : Except VolumeError Report)
        (w₀ : World (ByteArray × τ)) (r : Except VolumeError Report)
        (w' : World ((ByteArray × φ) × τ)),
        (fill ((Device.memory sectorSize).beside τ) l m load.source).start (disk, t) =
          (r₀, w₀) ∧
        w₀.calls = carriedOut transfers ++ [(.flush, true)] ∧
        (∀ c ∈ transfers, l.Contains (disk.size / sectorSize) c) ∧
        (fill (((Device.memory sectorSize).refusing plan).beside τ) l m load.source).start
          ((disk, s), t) = (r, w') ∧
        FailStop transfers r₀ w'.calls r) ∧
    (∀ e w, (Volume.mount (((Device.memory sectorSize).refusing plan).beside τ) l).start
        ((disk, s), t) = (.error e, w) →
      ∃ w', (fill (((Device.memory sectorSize).refusing plan).beside τ) l m
          load.source).start ((disk, s), t) = (.error e, w') ∧
        ∀ c done, (c, done) ∈ w'.calls → c = .count) := by
  have hkeeps := ((Device.keeps_memory sectorSize).refusing honest).beside τ
  constructor
  · intro vol w hmount
    obtain ⟨w₀, hmount₀, hdevice, hlayout, hsector, hspans, htogether, hcarried⟩ :=
      Volume.exists_mounted_together honest hdisk hmount
    subst hsector hlayout
    have hended := (Volume.alike_runUnflushed hspans.allows m).coupled
      (joins_failStop hkeeps load) htogether
    rw [Volume.on_of_device hdevice] at hended
    obtain ⟨transfers, r₀, w₀', r, w', hrun₀, hcalls₀, hall, hrun, hstop⟩ :=
      Volume.failStop_of_ended load rfl (hspans.on _) rfl hcarried hended
    exact ⟨transfers, r₀, w₀', r, w', (fill_outcome hmount₀).trans hrun₀, hcalls₀,
      hall, (fill_outcome hmount).trans hrun, hstop⟩
  · intro e w hmount
    refine ⟨w, fill_of_not_mounted hmount, fun c done hmem => ?_⟩
    have hcalls := Volume.ends_mounted.of_error (v := ⟨((disk, s), t), []⟩) rfl
      (Action.start_eq_error.1 hmount)
    exact (hcalls.calls hmem).resolve_left nofun

theorem fill_failStop_bootDisk :
    ∃ (transfers : List Call) (r₀ : Except VolumeError Report)
      (w₀ : World (ByteArray × Unit)) (r : Except VolumeError Report)
      (w' : World ((ByteArray × Nat) × Unit)),
      (fill ((Device.memory 512).beside Unit) Layout.bootDisk
        ⟨[⟨1, ⟨.letterA, "a", none⟩⟩]⟩
        (Loader.source fun _ t => (.ok (Bytes.zeros 3), t))).start
        (Bytes.zeros 3000320, ()) = (r₀, w₀) ∧
      w₀.calls = carriedOut transfers ++ [(.flush, true)] ∧
      (∀ c ∈ transfers, Layout.bootDisk.Contains ((Bytes.zeros 3000320).size / 512) c) ∧
      (fill (((Device.memory 512).refusing (.once 5)).beside Unit) Layout.bootDisk
        ⟨[⟨1, ⟨.letterA, "a", none⟩⟩]⟩
        (Loader.source fun _ t => (.ok (Bytes.zeros 3), t))).start
        ((Bytes.zeros 3000320, 0), ()) = (r, w') ∧
      FailStop transfers r₀ w'.calls r := by
  have hdisk := Volume.size_zeros_lt_greatest
  have hfits : min Layout.bootDisk.dataOffset Image.greatest ≤
      min ((Bytes.zeros 3000320).size / 512 * Layout.bootDisk.sectorSize) Image.greatest := by
    rw [Bytes.size_zeros]
    decide
  generalize Bytes.zeros 3000320 = disk at hdisk hfits ⊢
  have hcount : (((Device.memory 512).refusing (.once 5)).beside Unit).answer .count
      ((disk, 0), ()) = (.ok (disk.size / 512), ((disk, 1), ())) := rfl
  obtain ⟨vol, w, hmount, -⟩ := Volume.exists_mounted (l := Layout.bootDisk) hcount
    ⟨by decide, rfl⟩ hfits
  exact (fill_failStop (fun _ t => (.ok (Bytes.zeros 3), t)) (fun _ => rfl) hdisk).1 vol w hmount

end FatImage
