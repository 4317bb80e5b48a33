import FatImage.Proofs.Fill

/-!
# When a run succeeds, and what it answers if it does not

Three things can run out: the links of the table, the sectors of the image
and the slots of the directory. Whether there is room for a file is a
matter of its size, of how many files were placed before it and of how many
clusters these have taken; no device and no byte of the image come into it.
`HasRoom` says it as a condition and `obstacle` says which of the three is
missed first, in the order in which they are looked at.

A run over a disk in memory is settled by these two. It places every file
as long as there is room, so it succeeds just if there is room for all of
them, and the cause with which it fails is the obstacle of the first file
for which there is none. Nothing else can stop it: neither the device nor a
cluster without a place is ever the cause.

That is so if the data region starts at a place that 64 bits can count. A
layout whose data region does not may be opened all the same, since what is
checked is the place as it is computed; but then no run over it succeeds,
not even one without a file, and none of the three is what it misses.

The end of a range is counted in 64 bits and cut at the most that they can
count. An array of bytes has a length of 63 bits and a sector a size of 32,
so nothing is cut on a disk that there is; as a condition, the disk and the
clusters that links can count are together less than `Image.greatest`.
-/

namespace FatImage

variable {σ τ : Type} {look : σ → ByteArray × τ} {faulty : Prop} {v : View τ}
variable {vol : Volume σ} {l : Layout} {base : ByteArray} {fs : List File} {f : File}

namespace Layout

variable {size k c : Nat}

/-! ## Room for one more file -/

/-- There is room for a file where `k` slots are taken and `c` is the next
cluster, on an image of `size` bytes. -/
structure HasRoom (l : Layout) (size k c : Nat) (f : File) : Prop where
  slot : k < l.rootSectors * l.sectorSize / 32
  links : 0 < l.clustersOf f → c + l.clustersOf f - 1 < l.clusterLimit
  bytes : 0 < l.clustersOf f →
    l.dataStart + (c - 2 + l.clustersOf f) * l.sectorSize ≤ size

/-- What there is no room for, if anything: the links of the file, its bytes, or
its record. An empty file has neither links nor bytes. -/
def obstacle (l : Layout) (size k c : Nat) (f : File) : Option VolumeError :=
  if 0 < l.clustersOf f ∧ l.clusterLimit ≤ c + l.clustersOf f - 1 then
    some (.tableOverflow (c + l.clustersOf f - 1) l.clusterLimit)
  else if 0 < l.clustersOf f ∧
      size < l.dataStart + (c - 2 + l.clustersOf f) * l.sectorSize then
    some (.imageTooSmall (l.dataStart + (c - 2 + l.clustersOf f) * l.sectorSize) size)
  else if l.rootSectors * l.sectorSize / 32 ≤ k then some .directoryFull
  else none

theorem obstacle_eq_none_iff : l.obstacle size k c f = none ↔ l.HasRoom size k c f := by
  constructor
  · intro h
    unfold obstacle at h
    split at h
    · cases h
    · next hlinks =>
        split at h
        · cases h
        · next hbytes =>
            split at h
            · cases h
            · next hslot => exact ⟨by omega, fun hn => by omega, fun hn => by omega⟩
  · intro h
    have hslot := h.slot
    unfold obstacle
    rw [if_neg, if_neg, if_neg (by omega)]
    · rintro ⟨hn, hlt⟩
      exact absurd (h.bytes hn) (by omega)
    · rintro ⟨hn, hle⟩
      exact absurd (h.links hn) (by omega)

/-- There is room for an empty file as long as there is a slot. -/
theorem hasRoom_of_empty (hs : 0 < l.sectorSize) (hk : k < l.rootSectors * l.sectorSize / 32)
    (hf : f.data.size = 0) : l.HasRoom size k c f := by
  have hnone : l.clustersOf f = 0 := by rw [clustersOf, hf, clustersFor_zero hs]
  exact ⟨hk, fun hn => by omega, fun hn => by omega⟩

theorem obstacle_ne {e : VolumeError} (h : l.obstacle size k c f = some e) :
    e ≠ .deviceFailed ∧ e ≠ .wrongSectorSize ∧ ∀ c, e ≠ .noSuchCluster c := by
  unfold obstacle at h
  split at h
  · cases h
    exact ⟨nofun, nofun, fun _ => nofun⟩
  · split at h
    · cases h
      exact ⟨nofun, nofun, fun _ => nofun⟩
    · split at h
      · cases h
        exact ⟨nofun, nofun, fun _ => nofun⟩
      · cases h

theorem payloadOffset_end (hc : 2 ≤ c) (n : Nat) :
    l.payloadOffset (c + n) = l.dataStart + (c - 2 + n) * l.sectorSize := by
  rw [payloadOffset, firstDataCluster, show c + n - 2 = c - 2 + n by omega]

theorem Room.hasRoom (h : l.Room size fs) {i : Nat} (hf : fs[i]? = some f) :
    l.HasRoom size i (l.nextCluster (fs.take i)) f := by
  have hlocated : (l.nextCluster (fs.take i), f) ∈ l.located fs := by
    refine List.mem_of_getElem? (i := i) ?_
    rw [getElem?_located, hf, Option.map_some]
  obtain ⟨hfirst, hend⟩ := located_end_le hlocated
  obtain ⟨hlt, -⟩ := List.getElem?_eq_some_iff.1 hf
  have hslots := h.slots
  refine ⟨Nat.lt_of_lt_of_le hlt hslots, ?_, ?_⟩
  · intro hn
    have hlimit := h.reach.limit
    simp only [] at hfirst hend
    omega
  · intro _
    rw [← payloadOffset_end hfirst]
    exact Nat.le_trans (payloadOffset_mono hend) h.reach.stored

end Layout

namespace Volume

/-! ## A refusal has an obstacle for its cause -/

/-- The bytes of clusters are counted exactly: their end is below the number
that stands for everything greater. -/
def Counts (vol : Volume σ) : Prop :=
  vol.image.length + 0x10000 * vol.layout.sectorSize < Image.greatest

theorem Whole.obstacle_of_checkClusters (hstands : vol.Whole look faulty)
    (hcounts : vol.Counts) (hsize : f.data.size < 0x100000000) {start : UInt16} {c k : Nat}
    {e : VolumeError} (hstart : start.toNat = c) (hc : 2 ≤ c)
    (hn : vol.layout.clustersOf f ≠ 0)
    (h : vol.checkClusters start (vol.layout.clustersOf f) = .error e) :
    vol.layout.obstacle vol.image.length k c f = some e := by
  have hdata := hstands.data
  have hcount := hstands.clustersOf_le hsize
  have hcluster := start.toNat_lt
  rw [checkClusters_eq hstands.uncut hstart hc hn (by omega)] at h
  unfold Layout.obstacle
  split at h
  · next hle =>
      cases h
      rw [if_pos ⟨by omega, hle⟩]
  · next hlinks =>
      -- the clusters can be linked, so their bytes are few enough to be counted
      have hend : vol.layout.payloadOffset c +
          vol.layout.clustersOf f * vol.layout.sectorSize =
          vol.layout.dataStart +
            (c - 2 + vol.layout.clustersOf f) * vol.layout.sectorSize := by
        rw [← Layout.payloadOffset_add hc, Layout.payloadOffset_end hc]
      have hlimit := Layout.clusterLimit_le vol.layout
      have hmul := Nat.mul_le_mul_right vol.layout.sectorSize
        (show c - 2 + vol.layout.clustersOf f ≤ 0x10000 by omega)
      unfold Counts at hcounts
      obtain ⟨hlt, rfl⟩ := Image.checkRange_eq_error_iff.1 h
      rw [hend, Nat.min_eq_left (by omega)] at hlt ⊢
      rw [if_neg (by omega), if_pos ⟨by omega, hlt⟩]

theorem Sound.obstacle_of_refused (hstands : vol.Whole look faulty)
    (h32 : 32 ∣ vol.layout.sectorSize) (hcounts : vol.Counts) (h : Sound vol base fs v)
    (hsize : f.data.size < 0x100000000) {e : VolumeError}
    (hrefused : Refused vol (vol.layout.nextCluster fs) f v.disk e) :
    vol.layout.obstacle vol.image.length fs.length (vol.layout.nextCluster fs) f =
      some e := by
  have hfirst := Layout.two_le_nextCluster vol.layout fs
  cases hrefused with
  | size hlong => omega
  | clusters hn hcheck =>
      exact hstands.obstacle_of_checkClusters hcounts hsize
        (Layout.toNat_toUInt16 h.reach.counted) hfirst hn hcheck
  | slot hfits hnone =>
      have hfull : vol.layout.slotCount ≤ fs.length := by
        have hlists := h.lists hstands
        rcases Nat.lt_or_ge fs.length vol.layout.slotCount with hlt | hge
        · rw [← Layout.length_records (l := vol.layout)] at hlt
          exact absurd (hlists.stop hlt) (hnone h32 _ hlt)
        · exact hge
      have hslot : vol.layout.rootSectors * vol.layout.sectorSize / 32 ≤ fs.length := hfull
      unfold Layout.obstacle
      rw [if_neg, if_neg, if_pos hslot]
      · rintro ⟨hn, hlt⟩
        have hbytes := (hfits (by omega)).2
        rw [Layout.payloadOffset_end hfirst] at hbytes
        omega
      · rintro ⟨hn, hle⟩
        have hlinks := (hfits (by omega)).1
        omega

end Volume

/-! ## Runs over a disk in memory -/

/-- How a run over `files` ends on an image of `size` bytes: it succeeds just if
there is room for each file in its turn, and it fails at the first file with
an obstacle, which is the cause. -/
structure Settled (l : Layout) (size : Nat) (files : List File)
    (r : Except VolumeError Report) (w : World σ) : Prop where
  succeeds_iff : (∃ report, r = .ok report) ↔ ∀ i f, files[i]? = some f →
    l.HasRoom size i (l.nextCluster (files.take i)) f
  placed : ∀ report, r = .ok report → report.placed.toList = l.placements files ∧
    report.next.cluster.toNat = l.nextCluster files
  cause : ∀ e, r = .error e → ∃ i f, files[i]? = some f ∧
    (∀ j g, j < i → files[j]? = some g →
      l.HasRoom size j (l.nextCluster (files.take j)) g) ∧
    l.obstacle size i (l.nextCluster (files.take i)) f = some e ∧
    w.placed = (l.placements (files.take i)).map PlacedFile.placing
  never : ∀ e, r = .error e →
    e ≠ .deviceFailed ∧ e ≠ .wrongSectorSize ∧ ∀ c, e ≠ .noSuchCluster c

variable {answers : List (Entry × Except String ByteArray)} {sectorSize : Nat}
variable {disk : ByteArray} {t : τ}

theorem Volume.Filled.settled {vol : Volume (ByteArray × τ)} {report : Report}
    {w : World (ByteArray × τ)}
    (h : Filled vol disk answers report (World.view (fun s => (s.1, s.2)) w)) :
    Settled vol.layout disk.size (loaded answers) (.ok report) w where
  succeeds_iff := ⟨fun _ _ _ hf => h.sound.room.hasRoom hf, fun _ => ⟨report, rfl⟩⟩
  placed report' hr := by
    cases hr
    exact ⟨h.tells.placed, h.tells.next⟩
  cause e he := by cases he
  never e he := by cases he

/-- Where a run stopped at the file behind the first `k`, that file has an
obstacle and those before it had room. -/
theorem Volume.StoppedAt.settled {vol : Volume (ByteArray × τ)} {k : Nat}
    {e : VolumeError} {w : World (ByteArray × τ)}
    (hstands : vol.Whole (fun s => (s.1, s.2)) False) (h32 : 32 ∣ vol.layout.sectorSize)
    (hcounts : vol.Counts) (hlength : vol.image.length = disk.size)
    (hsizes : ∀ f ∈ fs, f.data.size < 0x100000000) (hf : fs[k]? = some f)
    (h : StoppedAt vol disk False (fs.take k) f e (World.view (fun s => (s.1, s.2)) w)) :
    Settled vol.layout disk.size fs (.error e) w := by
  obtain ⟨hsound, hrefused⟩ := h.sound
  obtain ⟨hlt, -⟩ := List.getElem?_eq_some_iff.1 hf
  have hk : (fs.take k).length = k := List.length_take_of_le (Nat.le_of_lt hlt)
  have hobstacle := hsound.obstacle_of_refused hstands h32 hcounts
    (hsizes f (List.mem_of_getElem? hf)) hrefused
  rw [hk, hlength] at hobstacle
  have hbefore : ∀ j g, j < k → fs[j]? = some g →
      vol.layout.HasRoom disk.size j (vol.layout.nextCluster (fs.take j)) g := by
    intro j g hj hg
    have hg' : (fs.take k)[j]? = some g := by rw [List.getElem?_take_of_lt hj, hg]
    have := hsound.room.hasRoom hg'
    rwa [List.take_take, Nat.min_eq_left (Nat.le_of_lt hj)] at this
  refine ⟨⟨?_, ?_⟩, ?_, ?_, ?_⟩
  · rintro ⟨report, hr⟩
    cases hr
  · intro hall
    have hnone := Layout.obstacle_eq_none_iff.2 (hall k f hf)
    rw [hobstacle] at hnone
    cases hnone
  · intro report hr
    cases hr
  · intro e' he
    cases he
    exact ⟨k, f, hf, hbefore, hobstacle, hsound.told⟩
  · intro e' he
    cases he
    exact Layout.obstacle_ne hobstacle

/-- A disk of whole sectors is as long as the image on it. -/
theorem Volume.length_eq_of_mount {vol : Volume (ByteArray × τ)} {w : World (ByteArray × τ)}
    (hmount : (Volume.mount ((Device.memory sectorSize).beside τ) l).start (disk, t) =
      (.ok vol, w))
    (hwhole : Device.checkDisk sectorSize disk = .ok ()) (hdisk : disk.size < Image.greatest) :
    vol.image.length = disk.size := by
  have hkeeps : ((Device.memory sectorSize).beside τ).Keeps (fun s => (s.1, s.2)) False :=
    (Device.keeps_memory sectorSize).beside τ
  obtain ⟨-, -, -, hlength, hsector⟩ := Volume.opened_of_mount hkeeps hdisk hmount
  rw [hlength, hsector]
  exact Nat.div_mul_cancel (Nat.dvd_of_mod_eq_zero (Device.checkDisk_eq_ok_iff.1 hwhole).2)

/-- A run over a volume that stands is settled. -/
theorem Volume.Whole.run_settled (load : Loader τ) {m : Manifest} {vol : Volume (ByteArray × τ)}
    {w : World (ByteArray × τ)} (h : vol.Whole (fun s => (s.1, s.2)) False)
    (hw : World.view (fun s => (s.1, s.2)) w = ⟨disk, t, []⟩) (hcounts : vol.Counts)
    (hlength : vol.image.length = disk.size) (hmirror : 0 < vol.layout.mirrorSectors)
    (h32 : 32 ∣ vol.layout.sectorSize) (hnames : ∀ e ∈ m.entries, e.name.Parsed)
    (hsizes : ∀ f ∈ loaded (load.answers m.entries t), f.data.size < 0x100000000) :
    ∃ r w', (vol.run m load.source).outcome w = (r, w') ∧
      Settled vol.layout disk.size (loaded (load.answers m.entries t)) r w' := by
  have hle := Nat.le_of_eq hlength
  have hreset := (h.reset (v := ⟨disk, t, []⟩) hle (h.four_le_mirrorBytes hmirror)).mono
    (fun _ _ hv' => hv') (fun _ _ he => he.2)
  obtain ⟨_, w₁, hw₁, -⟩ := hreset.exists_ok hw
  obtain ⟨hok, herror⟩ := Volume.Whole.run_ends_of_reset (g := fun disk => disk) load
    h h32 hle hmirror hnames hw hw₁
  cases hrun : vol.run m load.source w with
  | ok report w' =>
      exact ⟨.ok report, w', Action.outcome_eq_ok.2 hrun, (hok report w' hrun).settled⟩
  | error e w' =>
      rcases herror e w' hrun with ⟨k, f, hf, hstopped⟩ | ⟨hfaulty, -⟩
      · exact ⟨.error e, w', Action.outcome_eq_error.2 hrun,
          hstopped.settled h h32 hcounts hlength hsizes hf⟩
      · exact False.elim hfaulty

/-- Where there is room for every file that could be loaded, all of them are placed. -/
theorem fill_of_room (load : Loader τ) {m : Manifest} {vol : Volume (ByteArray × τ)}
    {w : World (ByteArray × τ)}
    (hmount : (Volume.mount ((Device.memory sectorSize).beside τ) l).start (disk, t) =
      (.ok vol, w)) (hu : l.Uncut)
    (hwhole : Device.checkDisk sectorSize disk = .ok ())
    (hcounted : disk.size + 0x10000 * l.sectorSize < Image.greatest)
    (hmirror : 0 < l.mirrorSectors) (h32 : 32 ∣ l.sectorSize)
    (hnames : ∀ e ∈ m.entries, e.name.Parsed)
    (hsizes : ∀ f ∈ loaded (load.answers m.entries t), f.data.size < 0x100000000)
    (hroom : ∀ i f, (loaded (load.answers m.entries t))[i]? = some f →
      l.HasRoom disk.size i (l.nextCluster ((loaded (load.answers m.entries t)).take i)) f) :
    ∃ report w', (fill ((Device.memory sectorSize).beside τ) l m load.source).start (disk, t) =
      (.ok report, w') ∧ report.placed.size = (loaded (load.answers m.entries t)).length := by
  have hkeeps : ((Device.memory sectorSize).beside τ).Keeps (fun s => (s.1, s.2)) False :=
    (Device.keeps_memory sectorSize).beside τ
  have hdisk : disk.size < Image.greatest := by omega
  have hlength := Volume.length_eq_of_mount hmount hwhole hdisk
  obtain ⟨hw, rfl, hstands, -⟩ := Volume.whole_of_mount hkeeps hdisk hmount hu
  have hcounts : vol.Counts := by
    rw [Volume.Counts, hlength]
    exact hcounted
  obtain ⟨r, w', hrun, hsettled⟩ := hstands.run_settled load hw hcounts hlength hmirror h32
    hnames hsizes
  obtain ⟨report, rfl⟩ := hsettled.succeeds_iff.2 hroom
  refine ⟨report, w', (fill_outcome hmount).trans hrun, ?_⟩
  rw [← Array.length_toList, (hsettled.placed report rfl).1, Layout.length_placements]

/-- An image that is too small by a number of 64 bits is what a run may miss only if the
data region starts at such a number. -/
theorem Settled.bounded {size stop : Nat} {files : List File} {w : World σ}
    (hstop : stop ≤ Image.greatest)
    (h : Settled l size files (.error (.imageTooSmall stop size)) w) : l.Bounded := by
  obtain ⟨i, f, -, -, hobstacle, -⟩ := h.cause _ rfl
  have hgreatest : Image.greatest = 0xFFFFFFFFFFFFFFFF := rfl
  unfold Layout.obstacle at hobstacle
  split at hobstacle
  · cases hobstacle
  · split at hobstacle
    · cases hobstacle
      unfold Layout.Bounded
      omega
    · split at hobstacle <;> cases hobstacle

end FatImage
