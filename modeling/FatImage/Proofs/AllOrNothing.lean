import FatImage.Proofs.Traffic

/-!
# A file is placed as a whole or not at all

On a disk in memory nothing stands between a file and its place but the
checks that `allocate` makes. They are made before the first write, and they
are enough: what they have let through is never refused by a later step, on
whatever bytes it has to work. So if a file is not placed, `allocate` has
refused it, and `allocate` only reads.

That a later call goes as if the one that failed had never been is then no
more a matter of the disk, but of the journal, which has the reads of both
calls. Actions add to the journal and never look at it. `Blind` says so of
one action, and it holds of everything that is made out of transfers, so it
is one more induction over `Alike`.

It does not matter here how the directory is searched. The slot that is found
may have a record in it, if sectors do not hold whole records; but it is a
slot of the directory, so a record can be written there.

What matters is where the mirrors are. `allocate` looks at the clusters and
at the directory, and if these lie behind the mirrors then the mirrors are
on the image too. A layout whose data region starts behind what 64 bits can
count may be opened, and then a file may be half placed when a mirror turns
out to be missing.
-/

namespace FatImage

variable {σ σ' : Type} {ε ε' α β : Type}

/-! ## Actions and what has been told before -/

namespace Action

/-- From a state the action goes one way only: it does not look at what is in the
journal, and what it adds comes behind. -/
def Blind (x : Action σ ε α) : Prop :=
  ∀ s, ∃ r s' added, ∀ events, x.outcome ⟨s, events⟩ = (r, ⟨s', events ++ added⟩)

theorem blind_pure (a : α) : Blind (pure a : Action σ ε α) := fun s =>
  ⟨.ok a, s, #[], fun events => by rw [Array.append_empty]; rfl⟩

theorem blind_throw (e : ε) : Blind (throw e : Action σ ε α) := fun s =>
  ⟨.error e, s, #[], fun events => by rw [Array.append_empty]; rfl⟩

theorem blind_record (e : Event) : Blind (record e : Action σ ε Unit) := fun s =>
  ⟨.ok (), s, #[e], fun _ => rfl⟩

theorem Blind.attempt {x : Action σ ε α} (h : x.Blind) :
    Blind (attempt x : Action σ ε' (Except ε α)) := by
  intro s
  obtain ⟨r, s', added, hx⟩ := h s
  exact ⟨.ok r, s', added, fun events => outcome_attempt (hx events)⟩

/-- What comes second has to be blind for such answers only as the first can give. -/
theorem Blind.bind {x : Action σ ε α} {f : α → Action σ ε β} (hx : x.Blind)
    (hf : ∀ a w w', x w = .ok a w' → (f a).Blind) : Blind (x >>= f) := by
  intro s
  obtain ⟨r, s₁, added, hx⟩ := hx s
  cases r with
  | error e => exact ⟨.error e, s₁, added, fun events => outcome_bind_of_error (hx events)⟩
  | ok a =>
      obtain ⟨r, s₂, added', hf⟩ := hf a _ _ (outcome_eq_ok.1 (hx #[])) s₁
      refine ⟨r, s₂, added ++ added', fun events => ?_⟩
      rw [outcome_bind_of_ok (hx events), hf, Array.append_assoc]

end Action

theorem Device.blind_perform (d : Device σ) (c : Call) : (d.perform c).Blind := by
  have hask : (d.ask c).Blind := by
    intro s
    rcases hd : d.answer c s with ⟨why | a, s'⟩
    · exact ⟨.error why, s', #[.call c false], fun _ => by simp [Action.outcome, ask, hd]⟩
    · exact ⟨.ok a, s', #[.call c true], fun _ => by simp [Action.outcome, ask, hd]⟩
  refine hask.attempt.bind fun r _ _ _ => ?_
  cases r with
  | ok a => exact Action.blind_pure a
  | error why =>
      exact (Action.blind_record _).bind fun _ _ _ _ => Action.blind_throw VolumeError.deviceFailed

theorem Alike.blind {here : Machine σ} {there : Machine σ'} {allowed : Call → Prop}
    {x : Action σ VolumeError α} {y : Action σ' VolumeError α}
    (h : Alike here there allowed x y) (hwhole : there.device.ReadsWhole)
    (hload : ∀ e, (there.source e).Blind) : y.Blind := by
  induction h with
  | answer a => exact Action.blind_pure a
  | failure e => exact Action.blind_throw e
  | record e _ => exact Action.blind_record e
  | bind _ _ ihx ihf => exact ihx.bind fun a _ _ _ => ihf a
  | read _ _ ihf =>
      refine (there.device.blind_perform _).bind fun sector _ _ hok => ?_
      obtain ⟨s, hd, -⟩ := Device.ends_call.of_ok rfl hok
      exact ihf sector (hwhole.size hd)
  | write _ => exact there.device.blind_perform _
  | load e _ ihf => exact (hload e).attempt.bind fun r _ _ _ => ihf r

/-! ## Calls that only read -/

def Call.IsRead : Call → Prop
  | .read _ _ => True
  | .count | .write _ _ | .flush => False

theorem Image.allowsReads_isRead {img : Image σ} {l : Layout} :
    img.AllowsReads l Call.IsRead :=
  ⟨fun _ => trivial⟩

/-- From `v` on there were no calls but reads, and the disk is what it was. -/
structure Traffic.OnlyRead (v v' : Traffic ByteArray) : Prop where
  disk : v'.state = v.state
  calls : ∃ calls, v'.calls = v.calls ++ calls ∧ ∀ c ∈ calls, c.1.IsRead

theorem Traffic.OnlyRead.refl (v : Traffic ByteArray) : v.OnlyRead v :=
  ⟨rfl, [], (List.append_nil _).symm, fun _ hc => nomatch hc⟩

theorem Traffic.OnlyRead.push {v v' : Traffic ByteArray} (h : v.OnlyRead v') {c : Call}
    (hc : c.IsRead) (done : Bool) : v.OnlyRead ⟨v'.state, v'.calls ++ [(c, done)]⟩ := by
  obtain ⟨hdisk, calls, hcalls, hread⟩ := h
  refine ⟨hdisk, calls ++ [(c, done)], by rw [hcalls, List.append_assoc], ?_⟩
  intro c' hc'
  rcases List.mem_append.1 hc' with hmem | hmem
  · exact hread c' hmem
  · rw [List.mem_singleton.1 hmem]
    exact hc

theorem maintains_onlyRead (sectorSize : Nat) (v : Traffic ByteArray) :
    Machine.Maintains ⟨Device.memory sectorSize, .nothing⟩ Call.IsRead v.OnlyRead where
  whole _ hd := (Device.readsWhole_memory sectorSize).size hd
  done {c v' a s} hc hv hd := by
    cases c with
    | read lba n =>
        obtain ⟨-, -, rfl⟩ := Device.memory_read_eq_ok_iff.1 hd
        exact hv.push hc true
    | count | write | flush => exact hc.elim
  refused {c v' why s} hc hv hd := by
    rw [Device.memory_refused hd]
    exact hv.push hc false
  load hv := Action.ends_throw hv

namespace Volume

/-! ## Steps that cannot fail -/

variable {vol : Volume ByteArray} {size c : Nat} {f : File} {a : Allocation} {b : ByteArray}

/-- The action succeeds on every disk of so many bytes, and leaves as many. -/
def Sure (x : Action ByteArray VolumeError Unit) (size : Nat) : Prop :=
  x.Ends (fun w => w.state.size) size (fun _ size' => size' = size) (fun _ _ => False)

theorem sure_of_ends {x : Action ByteArray VolumeError Unit}
    (h : ∀ v : View Unit, v.disk.size = size →
      x.Ends (World.view fun disk => (disk, ())) v (fun _ v' => v'.disk.size = size)
        (fun _ _ => False)) : Sure x size :=
  fun w hw => h (World.view (fun disk => (disk, ())) w) hw w rfl

theorem sure_note (n : Notice) : Sure (Action.note n) size :=
  Action.ends_record fun _ hw => hw

theorem Sure.bind {x : Action ByteArray VolumeError Unit}
    {f : Unit → Action ByteArray VolumeError β} {post : β → Nat → Prop}
    {fail : VolumeError → Nat → Prop} (hx : Sure x size)
    (hf : (f ()).Ends (fun w => w.state.size) size post fail) :
    Action.Ends (x >>= f) (fun w => w.state.size) size post fail := by
  refine Action.Ends.bind hx ?_ (fun _ _ => False.elim)
  rintro _ _ rfl
  exact hf

theorem AllocatedAt.start_toNat (ha : AllocatedAt vol c f b a)
    (hn : vol.layout.clustersOf f ≠ 0) : a.start.toNat = c := by
  have hlimit := Layout.clusterLimit_le vol.layout
  have hlinked := (ha.fits hn).1
  have hstart : a.start = (vol.layout.placement a.slot c f).start :=
    congrArg Allocation.start ha.place
  rw [hstart]
  exact Layout.placement_start_toNat (by omega) hn

theorem AllocatedAt.clusters_toNat (ha : AllocatedAt vol c f b a)
    (hs : 0 < vol.layout.sectorSize) : a.clusters.toNat = vol.layout.clustersOf f := by
  have hclusters : a.clusters = (vol.layout.placement a.slot c f).clusters :=
    congrArg Allocation.clusters ha.place
  rw [hclusters]
  exact Layout.placement_clusters_toNat hs ha.size

section

variable (h : vol.Whole (fun disk => (disk, ())) False) (hsize : vol.image.length ≤ size)
  (ha : AllocatedAt vol c f b a)
include h hsize ha

theorem AllocatedAt.sure_writePayload (hc : 2 ≤ c) :
    Sure (vol.writePayload a.start f.data) size := by
  have hs := h.sectorSize_pos
  refine sure_of_ends fun v hv => ?_
  by_cases hn : vol.layout.clustersOf f = 0
  · rw [writePayload, if_pos ((Layout.clustersFor_eq_zero_iff hs).1 hn)]
    exact Action.ends_pure hv
  · have hend := Layout.payload_end_le (f := f) hs hc
    have hroom := (ha.fits hn).2
    refine (h.writePayload (by rwa [hv]) ha.start_toNat hc (by omega)).mono ?_
      (fun _ _ he => he.1.2)
    rintro _ _ rfl
    rw [Bytes.size_overwrite (by omega), hv]

theorem AllocatedAt.sure_linkChain : Sure (vol.linkChain a.start a.clusters.toNat) size := by
  have hdata := h.data
  have hroot := Layout.rootStart_le_data vol.layout
  have hmirror := Layout.two_mul_clusterLimit_le vol.layout
  have hlinks := Layout.size_linkBytes c (vol.layout.clustersOf f)
  rw [ha.clusters_toNat h.sectorSize_pos]
  refine sure_of_ends fun v hv => ?_
  refine (h.linkChain (by rwa [hv]) ha.start_toNat fun hn => (ha.fits hn).1).mono ?_
    (fun _ _ he => he.1.2)
  rintro _ _ rfl
  by_cases hn : vol.layout.clustersOf f = 0
  · rw [Layout.onMirrors_of_size_eq_zero (by rw [hlinks, hn]), hv]
  · have hlinked := (ha.fits hn).1
    rw [Layout.size_onMirrors (by omega) (Nat.le_refl _) (by omega), hv]

theorem AllocatedAt.sure_writeRecord (r : Record) : Sure (vol.writeRecord a.slot r) size := by
  have hdata := h.data
  have hend := Layout.slotStart_end_le ha.slot
  refine sure_of_ends fun v hv => ?_
  refine Action.Ends.mono (h.writeRecord (by rwa [hv]) ha.slot r) ?_ (fun _ _ he => he.1.2)
  rintro _ _ rfl
  rw [Bytes.size_overwrite, hv]
  rw [Record.size_encode]
  rw [Layout.recordSize] at hend
  omega

end

/-! ## Placing -/

/-- What there is still to do of `place` when a place has been found. -/
def settle (vol : Volume σ) (cursor : Cursor) (name : ShortName) (data : ByteArray)
    (a : Allocation) : Action σ VolumeError (PlacedFile × Cursor) := do
  Action.note (.moved name .pending .allocated)
  vol.writePayload a.start data
  Action.note (.moved name .allocated .written)
  vol.linkChain a.start a.clusters.toNat
  vol.writeRecord a.slot (Record.file name a.start a.size)
  Action.note (.moved name .written .recorded)
  let next := cursor.advance a.clusters
  Action.note (.moved name .recorded .done)
  Action.note (.placed name a.size a.start)
  return ({ name, slot := a.slot, start := a.start, clusters := a.clusters, size := a.size },
    next)

theorem place_eq (vol : Volume σ) (cursor : Cursor) (name : ShortName) (data : ByteArray) :
    vol.place cursor name data =
      (vol.allocate cursor data.size >>= vol.settle cursor name data) :=
  rfl

theorem place_error_of_allocate {w w' : World ByteArray} {cursor : Cursor} {name : ShortName}
    {data : ByteArray} {e : VolumeError} (h : vol.allocate cursor data.size w = .error e w') :
    vol.place cursor name data w = .error e w' := by
  rw [← Action.outcome_eq_error, place_eq]
  exact Action.outcome_bind_of_error (Action.outcome_eq_error.2 h)

theorem settle_succeeds (cursor : Cursor) (name : ShortName) {data : ByteArray}
    (hpayload : Sure (vol.writePayload a.start data) size)
    (hlinks : Sure (vol.linkChain a.start a.clusters.toNat) size)
    (hrecord : Sure (vol.writeRecord a.slot (Record.file name a.start a.size)) size) :
    (vol.settle cursor name data a).Ends (fun w => w.state.size) size
      (fun _ size' => size' = size) (fun _ _ => False) := by
  refine (sure_note _).bind (hpayload.bind ((sure_note _).bind (hlinks.bind (hrecord.bind ?_))))
  exact (sure_note _).bind ((sure_note _).bind ((sure_note _).bind (Action.ends_pure rfl)))

/-- Between the two worlds nothing was done to the disk but to read it, and whatever
file comes next, it makes no difference to it: the answer is the same, and so is what
is done and told. -/
structure Untouched (vol : Volume ByteArray) (w w' : World ByteArray) : Prop where
  disk : w'.state = w.state
  calls : ∃ calls, w'.calls = w.calls ++ calls ∧ ∀ c ∈ calls, c.1.IsRead
  next : ∀ cursor name data, ∃ r s added,
    (vol.place cursor name data).outcome w = (r, ⟨s, w.journal ++ added⟩) ∧
    (vol.place cursor name data).outcome w' = (r, ⟨s, w'.journal ++ added⟩)

/-- A file that is not placed is refused by `allocate`, which leaves everything
untouched, and for one that it has let through every other step succeeds. -/
structure AllOrNothing (vol : Volume ByteArray) (cursor : Cursor) (name : ShortName)
    (data : ByteArray) (w : World ByteArray) : Prop where
  untouched : ∀ e w', vol.place cursor name data w = .error e w' → vol.Untouched w w'
  error_iff : ∀ e w', vol.place cursor name data w = .error e w' ↔
    vol.allocate cursor data.size w = .error e w'
  steps : ∀ a w₁, vol.allocate cursor data.size w = .ok a w₁ →
    Sure (vol.writePayload a.start data) w.state.size ∧
    Sure (vol.linkChain a.start a.clusters.toNat) w.state.size ∧
    Sure (vol.writeRecord a.slot (Record.file name a.start a.size)) w.state.size

theorem untouched_of_onlyRead {sectorSize : Nat} {w w' : World ByteArray}
    (hdevice : vol.image.device = Device.memory sectorSize)
    (h : w.traffic.OnlyRead w'.traffic) : vol.Untouched w w' := by
  refine ⟨h.disk, h.calls, fun cursor name data => ?_⟩
  have hplace : (vol.place cursor name data).Blind := by
    have halike : Alike ⟨Device.memory sectorSize, .nothing⟩ ⟨Device.memory sectorSize, .nothing⟩
        (fun _ => True) (vol.place cursor name data) (vol.place cursor name data) := by
      rw [← on_of_device hdevice]
      exact alike_place Image.allows_true cursor name data
    exact halike.blind (Device.readsWhole_memory sectorSize) fun _ => Action.blind_throw ""
  obtain ⟨r, s, added, hsame⟩ := hplace w.state
  have hdisk : w'.state = w.state := h.disk
  refine ⟨r, s, added, hsame w.journal, ?_⟩
  have hlater := hsame w'.journal
  rw [← hdisk] at hlater
  exact hlater

theorem allocate_onlyRead {sectorSize : Nat} {v : Traffic ByteArray}
    (hdevice : vol.image.device = Device.memory sectorSize) (cursor : Cursor) (bytes : Nat) :
    (vol.allocate cursor bytes).Ends World.traffic v (fun _ => v.OnlyRead)
      (fun _ => v.OnlyRead) := by
  have halike : Alike ⟨Device.memory sectorSize, .nothing⟩ ⟨Device.memory sectorSize, .nothing⟩
      Call.IsRead (vol.allocate cursor bytes) (vol.allocate cursor bytes) := by
    rw [← on_of_device hdevice]
    exact alike_allocate Image.allowsReads_isRead cursor bytes
  exact (maintains_onlyRead sectorSize v).ends halike (.refl v)

/-- If every other step succeeds, a file is refused just where `allocate` refuses it. -/
theorem place_error_iff {w w' : World ByteArray} {cursor : Cursor} {name : ShortName}
    {data : ByteArray} {e : VolumeError}
    (hsettled : ∀ a w₁, vol.allocate cursor data.size w = .ok a w₁ →
      ∃ r w₂, vol.settle cursor name data a w₁ = .ok r w₂) :
    vol.place cursor name data w = .error e w' ↔
      vol.allocate cursor data.size w = .error e w' := by
  refine ⟨fun hplaced => ?_, place_error_of_allocate⟩
  cases hw : vol.allocate cursor data.size w with
  | error e₁ w₁ =>
      cases (place_error_of_allocate hw).symm.trans hplaced
      rfl
  | ok a w₁ =>
      obtain ⟨r, w₂, hok⟩ := hsettled a w₁ hw
      rw [← Action.outcome_eq_error, place_eq,
        Action.outcome_bind_of_ok (Action.outcome_eq_ok.2 hw),
        Action.outcome_eq_ok.2 hok] at hplaced
      cases hplaced

theorem Whole.allOrNothing {sectorSize : Nat} {w : World ByteArray}
    (h : vol.Whole (fun disk => (disk, ())) False)
    (hdevice : vol.image.device = Device.memory sectorSize)
    (hsize : vol.image.length ≤ w.state.size) {cursor : Cursor}
    (hcursor : 2 ≤ cursor.cluster.toNat) (name : ShortName) (data : ByteArray) :
    vol.AllOrNothing cursor name data w := by
  have hfound := h.allocate (v := World.view (fun disk => (disk, ())) w) (f := ⟨name, data⟩)
    hsize rfl hcursor
  have hreads := allocate_onlyRead (v := w.traffic) hdevice cursor data.size
  have hsteps : ∀ a w₁, vol.allocate cursor data.size w = .ok a w₁ →
      Sure (vol.writePayload a.start data) w.state.size ∧
      Sure (vol.linkChain a.start a.clusters.toNat) w.state.size ∧
      Sure (vol.writeRecord a.slot (Record.file name a.start a.size)) w.state.size := by
    intro a w₁ hok
    obtain ⟨-, ha⟩ := hfound.of_ok rfl hok
    exact ⟨ha.sure_writePayload h hsize hcursor, ha.sure_linkChain h hsize,
      ha.sure_writeRecord h hsize _⟩
  have herror : ∀ e w', vol.place cursor name data w = .error e w' ↔
      vol.allocate cursor data.size w = .error e w' := by
    intro e w'
    refine place_error_iff fun a w₁ hok => ?_
    obtain ⟨hpayload, hlinks, hrecord⟩ := hsteps a w₁ hok
    have hw₁ : w₁.state.size = w.state.size :=
      congrArg ByteArray.size (hreads.of_ok rfl hok).disk
    obtain ⟨r, w₂, hsettled, -⟩ :=
      (settle_succeeds cursor name hpayload hlinks hrecord).exists_ok hw₁
    exact ⟨r, w₂, hsettled⟩
  refine ⟨fun e w' hfailed => ?_, herror, hsteps⟩
  exact untouched_of_onlyRead hdevice (hreads.of_error rfl ((herror e w').1 hfailed))

end Volume

namespace Volume

variable {τ : Type} {look : σ → ByteArray × τ} {v : View τ} {vol : Volume σ}

/-- In what is taken for the directory there is a free slot, if its first byte is zero. -/
theorem OpenedCut.freeSlot (h : vol.OpenedCut look) (hv : v.disk.size = 2560)
    (hfree : Bytes.byteAt v.disk 1024 = 0) :
    vol.freeSlot.Ends (World.view look) v (fun _ v' => v' = v) (fun _ _ => False) := by
  have hlength := h.length
  have hsector : vol.layout.sectorSize = 512 := by rw [h.layout]; rfl
  have hsectors : vol.layout.rootSectors = 0 + 1 := by rw [h.layout]; decide
  have hslots : vol.layout.slotCount = 16 := by rw [h.layout]; decide
  have hoffset : Layout.cut64 (vol.layout.rootOffset + 0 * vol.layout.sectorSize) = 1024 := by
    rw [h.layout]
    decide
  rw [Volume.freeSlot, hsectors, freeSlotFrom, hoffset, hsector, Nat.zero_mul]
  refine Action.Ends.bind (h.backed.readAt (by omega) (by omega)) ?_ (fun _ _ he => he.1.2)
  rintro sector _ ⟨rfl, rfl⟩
  split
  · exact Action.ends_pure rfl
  · next hnone =>
      have hused := freeSlotIn_eq_none (i := 0)
        (by rw [Bytes.size_slice, hsector]; omega) hnone
        (by rw [recordsPerSector, hsector]; decide) (by rw [hslots]; decide)
      rw [Nat.zero_mul, Bytes.byteAt_slice (by decide)] at hused
      exact absurd hfree hused

/-- Where the mirrors are cut, a place is found for a file of one byte. -/
theorem OpenedCut.allocate (h : vol.OpenedCut look) (hv : v.disk.size = 2560)
    (hfree : Bytes.byteAt v.disk 1024 = 0) :
    (vol.allocate Cursor.start 1).Ends (World.view look) v
      (fun a v' => v' = v ∧ a.start = 2 ∧ a.clusters = 1) (fun _ _ => False) := by
  have hclusters : vol.layout.clustersFor 1 = 1 := by rw [h.layout]; decide
  have hcheck : vol.checkClusters 2 1 = .ok () := by
    rw [checkClusters, h.layout]
    exact Image.checkRange_eq_ok (by rw [h.length]; decide)
  rw [allocate_eq vol (by rw [h.layout]; decide) _ (by decide), hclusters, if_neg (by decide)]
  change (Action.ofExcept (vol.checkClusters 2 1) >>= _).Ends _ _ _ _
  rw [hcheck]
  change (vol.takeSlot 2 1).Ends _ _ _ _
  refine (h.freeSlot hv hfree).bind ?_ (fun _ _ => False.elim)
  rintro slot _ rfl
  exact Action.ends_pure ⟨rfl, rfl, by rw [hclusters]; rfl⟩

/-- But then the link of its cluster has a place in the first mirror, and none in the second. -/
theorem OpenedCut.linkChain (h : vol.OpenedCut look) (hv : v.disk.size = 2560) :
    (vol.linkChain 2 1).Ends (World.view look) v (fun _ _ => False)
      (fun e v' => e = .imageTooSmall 275475149830 2560 ∧
        v' = { v with disk := Bytes.overwrite v.disk 516 (Layout.linkBytes 2 1) }) := by
  have hlength := h.length
  have hsize := Layout.size_linkBytes 2 1
  have hlinks : vol.linkChain 2 1 = Action.forEach (fun i =>
      vol.image.writeAt (vol.layout.linkOffset i 2) (Layout.linkBytes 2 1))
      vol.layout.mirrors 0 := by
    have hchain : vol.layout.checkChain 2 1 = .ok () := by rw [h.layout]; rfl
    rw [Volume.linkChain, hchain]
    rfl
  have hmirrors : vol.layout.mirrors = 66963367 + 1 + 1 := by rw [h.layout]; rfl
  have hfirst : vol.layout.linkOffset 0 2 = 516 := by rw [h.layout]; decide
  have hsecond : vol.image.checkRange (vol.layout.linkOffset 1 2) (Layout.linkBytes 2 1).size =
      .error (.imageTooSmall 275475149830 2560) := by
    rw [h.layout, hsize, ← h.length]
    exact Image.checkRange_eq_error (by rw [h.length]; decide) (by decide)
  rw [hlinks, hmirrors, Action.forEach, Action.forEach, hfirst, Image.writeAt_eq_throw hsecond]
  refine (h.backed.writeAt (by omega) (by omega)).bind ?_ (fun _ _ he => he.1.2.elim)
  rintro _ _ rfl
  exact Action.ends_throw ⟨rfl, rfl⟩

/-- So it fails when the bytes of the file have been written. -/
theorem OpenedCut.place (h : vol.OpenedCut look) (hv : v.disk.size = 2560)
    (hfree : Bytes.byteAt v.disk 1024 = 0) {data : ByteArray} (hdata : data.size = 1)
    (name : ShortName) :
    (vol.place Cursor.start name data).Ends (World.view look) v (fun _ _ => False)
      (fun e v' => e = .imageTooSmall 275475149830 2560 ∧
        Bytes.byteAt v'.disk 1536 = Bytes.byteAt data 0) := by
  have hlength := h.length
  have hpayload : vol.writePayload 2 data = vol.image.writeAt 1536 data := by
    rw [writePayload, if_neg (by omega), h.layout]
    rfl
  have hsize := Layout.size_linkBytes 2 1
  unfold Volume.place
  rw [hdata]
  refine (h.allocate hv hfree).bind ?_ (fun _ _ => False.elim)
  rintro ⟨_, _, size, slot⟩ v₀ ⟨rfl, rfl, rfl⟩
  refine ends_quiet_bind rfl ?_
  simp only [hpayload]
  refine (h.backed.writeAt (by omega) (by omega)).bind ?_ (fun _ _ he => he.1.2.elim)
  rintro _ v₁ rfl
  refine ends_quiet_bind rfl ?_
  have hsize₁ := Bytes.size_overwrite (show 1536 + data.size ≤ v₀.disk.size by omega)
  refine Action.Ends.bind (h.linkChain (by simp only [hsize₁]; exact hv))
    (fun _ _ => False.elim) ?_
  rintro _ _ ⟨rfl, rfl⟩
  refine ⟨rfl, ?_⟩
  rw [Bytes.byteAt_overwrite_of_outside (by simp only [hsize₁]; omega) (by omega),
    Bytes.byteAt_overwrite (by omega), if_pos (by omega)]

end Volume

end FatImage
