import FatImage.Proofs.AllOrNothing
import FatImage.Proofs.Oversized
import FatImage.Proofs.Reset

/-!
# The longest file

Before a disk is touched, the sizes that a manifest declares are held against
the longest file of the layout. That length is found by multiplying: so many
clusters can be linked, the first two of them have no place, and each of the
others has a sector. Placing a file goes the other way. It divides the length
by a sector, rounds up, and asks whether the last cluster can be linked.

Both draw the same line, and there is no rounding to be followed case by case:
a quotient that is rounded up is at most `k` just if the number is at most `k`
sectors. Where a layout has links for the two missing clusters at most, the
line is at zero; and the cut at 32 bits takes away no length that a file can
have.

So a size that passes is never refused for want of links, if it is placed as
the first one after a reset. It may still be refused for want of a slot or of
sectors, which are not looked at up front.
-/

namespace FatImage

variable {σ : Type} {vol : Volume σ} {w : World σ} {l : Layout} {n : Nat}

namespace Layout

theorem checkChain_first_iff (hn : 2 + n ≤ 0x100000000) :
    l.checkChain 2 n = .ok () ↔ n ≤ l.clusterLimit - 2 := by
  have hstart : (2 : UInt16).toNat = 2 := rfl
  rw [checkChain_eq_ok_iff (hstart ▸ hn), hstart]
  omega

theorem le_maxFileSize_iff (hn : n < 0x100000000) :
    n ≤ l.maxFileSize ↔ n ≤ (l.clusterLimit - 2) * l.sectorSize := by
  rw [maxFileSize, firstDataCluster, Nat.le_min]
  omega

theorem checkChain_clustersFor_iff (hs : 512 ≤ l.sectorSize) (hn : n < 0x100000000) :
    l.checkChain 2 (l.clustersFor n) = .ok () ↔ n ≤ l.maxFileSize := by
  have hcount := clustersFor_le_of_lt hs hn
  rw [checkChain_first_iff (by omega), clustersFor_le_iff (by omega), le_maxFileSize_iff hn]

end Layout

namespace Volume

/-! ## Placing from the first cluster on -/

section

variable (hs : 0 < vol.layout.sectorSize) (hn : n < 0x100000000) {cursor : Cursor}
include hs hn

/-- Clusters that cannot be linked are refused before the device is asked anything. -/
theorem allocate_overflow {e : VolumeError}
    (h : vol.layout.checkChain cursor.cluster (vol.layout.clustersFor n) = .error e) :
    vol.allocate cursor n w = .error e w := by
  have hsome : vol.layout.clustersFor n ≠ 0 := by
    intro h0
    rw [h0] at h
    cases h
  have hcheck : vol.checkClusters cursor.cluster (vol.layout.clustersFor n) = .error e := by
    unfold checkClusters
    rw [h]
    rfl
  rw [allocate_eq vol hs cursor hn, if_neg hsome, hcheck]
  rfl

/-- With a slot, and with clusters that are free to use, there is a place. -/
theorem exists_allocate {slot : Nat} (hslot : vol.Finds w slot)
    (hcheck : vol.checkClusters cursor.cluster (vol.layout.clustersFor n) = .ok ()) :
    ∃ a w', vol.allocate cursor n w = .ok a w' := by
  obtain ⟨w', hfound⟩ := hslot
  have htake : ∀ start, ∃ a w', vol.takeSlot start n w = .ok a w' := fun start =>
    ⟨_, w', Action.outcome_eq_ok.1
      (Action.outcome_bind_of_ok (Action.outcome_eq_ok.2 hfound))⟩
  rw [allocate_eq vol hs cursor hn]
  split
  · exact htake 0
  · rw [hcheck]
    exact htake cursor.cluster

end

/-- From the first cluster on, what is too long is refused for want of links. -/
theorem place_overflow {vol : Volume ByteArray} {w : World ByteArray} {data : ByteArray}
    (hs : 512 ≤ vol.layout.sectorSize) (hn : data.size < 0x100000000)
    (hlong : vol.layout.maxFileSize < data.size) (name : ShortName) :
    ∃ last limit, vol.place Cursor.start name data w = .error (.tableOverflow last limit) w := by
  have hlinks : ¬ vol.layout.checkChain Cursor.start.cluster
      (vol.layout.clustersFor data.size) = .ok () :=
    fun hok => Nat.not_le.2 hlong ((Layout.checkChain_clustersFor_iff hs hn).1 hok)
  have hstart : Cursor.start.cluster.toNat = 2 := rfl
  have hclusters := Layout.clustersFor_le_of_lt hs hn
  have hcount : Cursor.start.cluster.toNat + vol.layout.clustersFor data.size ≤ 0x100000000 := by
    omega
  rw [Layout.checkChain_eq_ok_iff hcount, Classical.not_imp, Nat.not_lt] at hlinks
  have hover := Layout.checkChain_eq_error hcount hlinks.1 hlinks.2
  exact ⟨_, _, place_error_of_allocate (allocate_overflow (by omega) hn hover)⟩

/-! ## The first file after a reset -/

theorem maintains_size (sectorSize size : Nat) :
    Machine.Maintains ⟨Device.memory sectorSize, .nothing⟩ (fun _ => True)
      (fun v => v.state.size = size) where
  whole _ hd := (Device.readsWhole_memory sectorSize).size hd
  done _ hv hd := (Device.size_memory hd).trans hv
  refused _ hv hd := (congrArg ByteArray.size (Device.memory_refused hd)).trans hv
  load hv := Action.ends_throw hv

section

variable {vol : Volume ByteArray} {w₀ w : World ByteArray} {sectorSize : Nat}
variable (hdevice : vol.image.device = Device.memory sectorSize)
include hdevice

theorem reset_size (hreset : vol.reset w₀ = .ok () w) : w.state.size = w₀.state.size := by
  have halike : Alike ⟨Device.memory sectorSize, .nothing⟩ ⟨Device.memory sectorSize, .nothing⟩
      (fun _ => True) vol.reset vol.reset := by
    rw [← on_of_device hdevice]
    exact alike_reset Image.allows_true
  exact ((maintains_size sectorSize _).ends (v := w₀.traffic) halike rfl).of_ok rfl hreset

variable {data : ByteArray} (h : vol.Whole (fun disk => (disk, ())) False)
variable (hn : data.size < 0x100000000) (hle : data.size ≤ vol.layout.maxFileSize)
variable (name : ShortName)
include h hn hle

/-- What is not too long is not refused for want of links. -/
theorem Whole.place_ne_overflow (hv : vol.image.length ≤ w.state.size) {last limit : Nat}
    {w' : World ByteArray} :
    vol.place Cursor.start name data w ≠ .error (.tableOverflow last limit) w' := by
  intro hfailed
  have hstart : 2 ≤ Cursor.start.cluster.toNat := by decide
  have hlinked := (Layout.checkChain_clustersFor_iff h.least hn).2 hle
  have hplace := h.allOrNothing hdevice hv hstart name data
  have hallocate := h.allocate (v := World.view (fun disk => (disk, ())) w)
    (f := ⟨name, data⟩) hv rfl hstart
  obtain ⟨-, ⟨-, hf⟩ | hrefused⟩ := hallocate.of_error rfl ((hplace.error_iff _ _).1 hfailed)
  · exact hf
  · cases hrefused with
    | clusters _ hcheck =>
        obtain ⟨needed, he⟩ := checkClusters_eq_error_of_linked h.uncut hstart hlinked hcheck
        cases he

/-- After a reset it is placed, if there is a slot and the image has room for it. -/
theorem Whole.exists_place (hv : vol.image.length ≤ w₀.state.size)
    (hreset : vol.reset w₀ = .ok () w)
    (hroom : vol.layout.mirrors = 0 ∨ 0 < vol.layout.mirrorSectors)
    (hslots : 0 < vol.layout.slotCount)
    (hstored : vol.layout.dataStart +
      vol.layout.clustersFor data.size * vol.layout.sectorSize ≤ vol.image.length) :
    ∃ r w', vol.place Cursor.start name data w = .ok r w' := by
  have hs := h.sectorSize_pos
  have hstart : 2 ≤ Cursor.start.cluster.toNat := by decide
  have hlinked := (Layout.checkChain_clustersFor_iff h.least hn).2 hle
  have hoffset : vol.layout.payloadOffset Cursor.start.cluster.toNat = vol.layout.dataStart := by
    show vol.layout.dataStart + 0 * vol.layout.sectorSize = _
    rw [Nat.zero_mul, Nat.add_zero]
  have hv' : vol.image.length ≤ w.state.size := by rwa [reset_size hdevice hreset]
  have hblank := (h.reset_blank (v := World.view (fun disk => (disk, ())) w₀) hv
    (fun hsome => h.four_le_mirrorBytes (hroom.resolve_left (Nat.ne_of_gt hsome)))).of_ok
    rfl hreset
  have hfinds := h.finds_zero_of_empty hv' hblank.directory hslots
  have hcheck := checkClusters_eq_ok h.uncut hstart hlinked (by rwa [hoffset])
  obtain ⟨a, w₁, hfound⟩ := exists_allocate hs hn hfinds hcheck
  cases hplaced : vol.place Cursor.start name data w with
  | ok r w' => exact ⟨r, w', rfl⟩
  | error e w' =>
      have hplace := h.allOrNothing hdevice hv' hstart name data
      cases hfound.symm.trans ((hplace.error_iff e w').1 hplaced)

end

/-- Placed as the first file, `n` zeros are not refused for want of links. And if there is a
slot and the image has room for their clusters, they are placed; only where mirrors have no
sectors can a reset spoil the first slot. -/
structure PlacesFirst (vol : Volume ByteArray) (w : World ByteArray) (name : ShortName)
    (n : Nat) : Prop where
  noOverflow : ∀ last limit w', vol.place Cursor.start name (Bytes.zeros n) w ≠
    .error (.tableOverflow last limit) w'
  placed : vol.layout.mirrors = 0 ∨ 0 < vol.layout.mirrorSectors → 0 < vol.layout.slotCount →
    vol.layout.dataStart + vol.layout.clustersFor n * vol.layout.sectorSize ≤
      vol.image.length →
    ∃ r w', vol.place Cursor.start name (Bytes.zeros n) w = .ok r w'

theorem Whole.placesFirst_iff {vol : Volume ByteArray} {w₀ w : World ByteArray}
    {sectorSize : Nat} (h : vol.Whole (fun disk => (disk, ())) False)
    (hdevice : vol.image.device = Device.memory sectorSize)
    (hv : vol.image.length ≤ w₀.state.size) (hreset : vol.reset w₀ = .ok () w)
    (hn : n < 0x100000000) (name : ShortName) :
    vol.PlacesFirst w name n ↔ n ≤ vol.layout.maxFileSize := by
  have hzeros := Bytes.size_zeros n
  constructor
  · intro hplaces
    refine Nat.not_lt.1 fun hlong => ?_
    obtain ⟨last, limit, hover⟩ : ∃ last limit, vol.place Cursor.start name (Bytes.zeros n) w =
        .error (.tableOverflow last limit) w :=
      place_overflow h.least (by rwa [hzeros]) (by rwa [hzeros]) name
    exact hplaces.noOverflow last limit w hover
  · intro hle
    have hn' : (Bytes.zeros n).size < 0x100000000 := by rwa [hzeros]
    have hle' : (Bytes.zeros n).size ≤ vol.layout.maxFileSize := by rwa [hzeros]
    refine ⟨fun _ _ _ => ?_, fun hroom hslots hstored => ?_⟩
    · exact h.place_ne_overflow hdevice hn' hle' name (by rwa [reset_size hdevice hreset])
    · exact h.exists_place hdevice hn' hle' name hv hreset hroom hslots (by rwa [hzeros])

end Volume

/-- The longest file is as long as there are links for, and no longer: of the lengths that
a file can have, those up to it and no others have clusters that can be linked from the
first one on. So the placeholders of a manifest pass just if each of them, placed as the
first file on a disk that has been reset, is not refused for want of links. -/
theorem Layout.maxFileSize_exact (hs : 512 ≤ l.sectorSize) :
    (∀ length < 0x100000000, 2 + l.clustersFor length < 0x100000000 ∧
      (l.checkChain 2 (l.clustersFor length) = .ok () ↔ length ≤ l.maxFileSize)) ∧
    ∀ (disk : ByteArray) vol w₀ w, disk.size < diskLimit → l.Narrow →
      (Volume.mount (Device.memory l.sectorSize) l).start disk = (.ok vol, w₀) →
      vol.reset w₀ = .ok () w → ∀ m : Manifest, m.checkPlaceholders l.maxFileSize = .ok () ↔
        ∀ e ∈ m.entries, ∀ size, e.placeholder = some size →
          vol.PlacesFirst w e.name size.toNat := by
  constructor
  · intro length hlength
    have hcount := clustersFor_le_of_lt hs hlength
    exact ⟨by omega, checkChain_clustersFor_iff hs hlength⟩
  · intro disk vol w₀ w hlimit hnarrow hmount hreset m
    have hkeeps := Device.keeps_memory l.sectorSize
    have hcounted : disk.size < Image.greatest := Nat.lt_trans hlimit (by decide)
    obtain ⟨hw, rfl, hopened, -⟩ := Volume.opened_of_mount hkeeps hcounted hmount
    have hlength : vol.image.length ≤ disk.size :=
      Volume.length_le_of_mount hkeeps hcounted hmount
    -- what was reset has its regions where they should be
    have hstands := (hopened.reset_or_stops (v := ⟨disk, (), []⟩) hlength hnarrow
      (Nat.lt_of_le_of_lt hlength hlimit)).resolve_right fun hstops =>
        hstops.2.of_ok hw hreset
    obtain ⟨_, hmounted⟩ := Volume.ends_mounted.of_ok (v := ⟨disk, []⟩) rfl
      (Action.start_eq_ok.1 hmount)
    have hdisk : w₀.state = disk := congrArg View.disk hw
    have hv : vol.image.length ≤ w₀.state.size := by rwa [hdisk]
    rw [Manifest.checkPlaceholders_eq_ok_iff]
    exact forall₄_congr fun e _ size _ =>
      (hstands.placesFirst_iff hmounted.device hv hreset size.toNat_lt e.name).symm

theorem Layout.maxFileSize_exact_bootDisk :
    512 ≤ Layout.bootDisk.sectorSize ∧ ∃ vol w₀ w,
      (Volume.mount (Device.memory 512) Layout.bootDisk).start (Bytes.zeros 3000320) =
        (.ok vol, w₀) ∧
      vol.reset w₀ = .ok () w ∧
      ∀ m : Manifest, m.checkPlaceholders Layout.bootDisk.maxFileSize = .ok () ↔
        ∀ e ∈ m.entries, ∀ size, e.placeholder = some size →
          vol.PlacesFirst w e.name size.toNat := by
  have hdisk := Volume.size_zeros_lt_diskLimit
  have hkeeps := Device.keeps_memory 512
  obtain ⟨vol, w₀, hmount⟩ := Volume.exists_mount_zeros (s := Bytes.zeros 3000320) hkeeps rfl
    (by dsimp only)
  generalize Bytes.zeros 3000320 = disk at hdisk hmount ⊢
  obtain ⟨hw, hl, hstands, hlength, -⟩ := Volume.whole_of_mount hkeeps
    (Nat.lt_trans hdisk (by decide)) hmount Layout.uncut_bootDisk
  have hv : vol.image.length ≤ w₀.state.size := by
    rwa [show w₀.state = disk from congrArg View.disk hw]
  obtain ⟨w, hreset, -⟩ := hstands.resetsClean hv (Or.inr (by rw [hl]; decide))
  exact ⟨by decide, vol, w₀, w, hmount, hreset,
    (Layout.maxFileSize_exact (by decide)).2 disk vol w₀ w hdisk Layout.narrow_bootDisk
      hmount hreset⟩

end FatImage
