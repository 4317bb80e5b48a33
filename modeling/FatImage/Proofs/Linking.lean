import FatImage.Proofs.Chain

/-!
# Linking on any table

Files are linked on a table that a reset has emptied, but `linkChain` does not
ask for that: it can be called on any table, for any first cluster and any
number of clusters. What it does there is said in one place. It looks at the
last number before it does anything, and if that cannot be linked it has done
nothing. Otherwise it leaves a run of links in every mirror, and `LinkedRun`
says of each byte of the disk which it is.

The links of a run are read from a mirror as they were written, and the run is
short enough for the budget of a walk. So what is linked is followed, from any
first cluster that has a place in the data region; the clusters 0 and 1 can be
linked as well, but they are no chain.
-/

namespace FatImage

variable {l : Layout} {b : ByteArray} {c n : Nat}

namespace Layout

/-- In every mirror of `b'` the clusters from `c` on are linked, `n` of them, and every
other byte is that of `b`. -/
structure LinkedRun (l : Layout) (b b' : ByteArray) (c n : Nat) : Prop where
  size : b'.size = b.size
  next : ∀ i < l.mirrors, ∀ k, k + 1 < n → (l.linkAt b' i (c + k)).toNat = c + k + 1
  last : ∀ i < l.mirrors, ∀ k, k + 1 = n → (l.linkAt b' i (c + k)).toNat = 0xFFFF
  apart : ∀ x, (∀ i < l.mirrors, x < l.mirrorStart i + 2 * c ∨
    l.mirrorStart i + 2 * (c + n) ≤ x) → Bytes.byteAt b' x = Bytes.byteAt b x

section

variable (hn : c + n ≤ l.clusterLimit) (hb : l.rootStart ≤ b.size)
include hn hb

theorem linkAt_onMirrors {i k : Nat} (hi : i < l.mirrors) (hk : k < n) :
    l.linkAt (l.onMirrors b (2 * c) (linkBytes c n) l.mirrors) i (c + k) =
      if k + 1 = n then endOfChain else (c + k + 1).toUInt16 := by
  have hlimit := two_mul_clusterLimit_le l
  have hsize := size_linkBytes c n
  have htop : 2 * c + (linkBytes c n).size ≤ l.mirrorBytes := by omega
  have hbyte : ∀ j, j < 2 * n → Bytes.byteAt
      (l.onMirrors b (2 * c) (linkBytes c n) l.mirrors) (l.mirrorStart i + (2 * c + j)) =
      Bytes.byteAt (linkBytes c n) j := by
    intro j hj
    rw [byteAt_onMirrors htop (Nat.le_refl _) hb hi (by omega), if_pos (by omega),
      Nat.add_sub_cancel_left]
  rw [← word16At_linkBytes hk, linkAt, Bytes.word16At, Bytes.word16At,
    show l.mirrorStart i + 2 * (c + k) = l.mirrorStart i + (2 * c + 2 * k) by omega,
    hbyte _ (by omega), Nat.add_assoc, Nat.add_assoc, hbyte _ (by omega)]

theorem linkedRun_onMirrors :
    l.LinkedRun b (l.onMirrors b (2 * c) (linkBytes c n) l.mirrors) c n := by
  have hlimit := two_mul_clusterLimit_le l
  have hcounted := clusterLimit_le l
  have hsize := size_linkBytes c n
  have htop : 2 * c + (linkBytes c n).size ≤ l.mirrorBytes := by omega
  refine ⟨size_onMirrors htop (Nat.le_refl _) hb, fun i hi k hk => ?_, fun i hi k hk => ?_,
    fun x hx => ?_⟩
  · rw [linkAt_onMirrors hn hb hi (by omega), if_neg (by omega), toNat_toUInt16 (by omega)]
  · rw [linkAt_onMirrors hn hb hi (by omega), if_pos hk]
    rfl
  · rcases Nat.lt_or_ge x l.tableOffset with hlt | htable
    · exact byteAt_onMirrors_of_outside htop (Nat.le_refl _) hb (Or.inl hlt)
    · rcases Nat.lt_or_ge x l.rootStart with hlt | hroot
      · obtain ⟨i, hi, j, hj, rfl⟩ := exists_mirror htable hlt
        have hout := hx i hi
        rw [byteAt_onMirrors htop (Nat.le_refl _) hb hi hj, if_neg (by omega)]
      · exact byteAt_onMirrors_of_outside htop (Nat.le_refl _) hb (Or.inr hroot)

end

end Layout

namespace Volume

/-- What comes of linking `count` clusters from `start` on. -/
structure LinksRun (vol : Volume ByteArray) (w : World ByteArray) (start : UInt16)
    (count : Nat) : Prop where
  nothing : count = 0 → vol.linkChain start count w = .ok () w
  refused : count ≠ 0 → vol.layout.clusterLimit ≤ start.toNat + count - 1 →
    vol.linkChain start count w =
      .error (.tableOverflow (start.toNat + count - 1) vol.layout.clusterLimit) w
  linked : count ≠ 0 → start.toNat + count - 1 < vol.layout.clusterLimit →
    ∃ w', vol.linkChain start count w = .ok () w' ∧
      vol.layout.LinkedRun w.state w'.state start.toNat count ∧
      (2 ≤ start.toNat → 0 < vol.layout.mirrors → ∃ cs w'', vol.chain start w' = .ok cs w'' ∧
        cs.map UInt16.toNat = List.range' start.toNat count)

theorem map_toNat_clustersFrom (h : c + n ≤ 0xFFF0) :
    (clustersFrom c n).map UInt16.toNat = List.range' c n := by
  rw [clustersFrom, List.map_map, List.range'_eq_map_range]
  refine List.map_congr_left fun i hi => ?_
  have hi' := List.mem_range.1 hi
  exact Layout.toNat_toUInt16 (by omega)

theorem Stands.linksRun {vol : Volume ByteArray} {w : World ByteArray}
    (h : vol.Stands (fun disk => (disk, ())) False) (hv : vol.image.length ≤ w.state.size)
    {start : UInt16} {count : Nat} (hcount : start.toNat + count < 0x100000000) :
    vol.LinksRun w start count := by
  refine ⟨?_, fun hne hover => ?_, fun hne hlimit => ?_⟩
  · rintro rfl
    rfl
  · have hcheck := Layout.checkChain_eq_error (Nat.le_of_lt hcount) hne hover
    unfold Volume.linkChain
    rw [hcheck]
    rfl
  · have hn : start.toNat + count ≤ vol.layout.clusterLimit := by omega
    have hcounted := Layout.clusterLimit_le vol.layout
    have hdata := h.data
    have hroot := Layout.rootStart_le_data vol.layout
    have hb : vol.layout.rootStart ≤ w.state.size := by omega
    have hlinks := h.linkChain (v := World.view (fun disk => (disk, ())) w) (c := start.toNat)
      (n := count) hv (fun _ => rfl) (fun _ => hn)
    have hwrite := hlinks.mono (fun _ _ hv' => hv') (fun _ _ he => he.1.2)
    obtain ⟨_, w', hok, hw'⟩ := hwrite.exists_ok rfl
    have hdisk : w'.state = vol.layout.onMirrors w.state (2 * start.toNat)
        (Layout.linkBytes start.toNat count) vol.layout.mirrors := congrArg View.disk hw'
    have hrun := Layout.linkedRun_onMirrors hn hb
    rw [← hdisk] at hrun
    refine ⟨w', hok, hrun, fun hstart hmirrors => ?_⟩
    have hv' : vol.image.length ≤ w'.state.size := Nat.le_trans hv (Nat.le_of_eq hrun.size.symm)
    have hchain := h.chain_run (v := World.view (fun disk => (disk, ())) w') hv' hmirrors hstart
      (Nat.pos_of_ne_zero hne) hn fun k hk => by
        show vol.layout.linkAt w'.state 0 _ = _
        rw [hdisk, Layout.linkAt_onMirrors hn hb hmirrors hk]
    have hnumber : start.toNat.toUInt16 = start := UInt16.ofNat_toNat
    rw [hnumber] at hchain
    obtain ⟨w'', hchained, -⟩ := hchain.exists_ok rfl
    exact ⟨_, w'', hchained, map_toNat_clustersFrom (by omega)⟩

end Volume

/-- On a disk in memory, whatever there is on it, a run of clusters is linked in every
mirror and nowhere else, and followed from its start to its end; or it is refused because
its last cluster cannot be linked, and then nothing is done at all. -/
theorem chain_linked {sectorSize : Nat} {disk : ByteArray} {vol : Volume ByteArray}
    {w₀ w : World ByteArray} (hcounted : disk.size < Image.greatest)
    (hmount : (Volume.mount (Device.memory sectorSize) l).start disk = (.ok vol, w₀))
    (hbounded : l.Bounded) (hsize : w.state.size = disk.size) {start : UInt16} {count : Nat}
    (hcount : start.toNat + count < 0x100000000) : vol.LinksRun w start count := by
  obtain ⟨-, -, hstands, hlength, -⟩ :=
    Volume.of_mount (Device.keeps_memory sectorSize) hcounted hmount hbounded
  exact hstands.linksRun (by rw [hsize]; exact hlength) hcount

theorem chain_linked_bootDisk :
    ∃ vol w, (Volume.mount (Device.memory 512) Layout.bootDisk).start (Bytes.zeros 3000320) =
        (.ok vol, w) ∧
      vol.LinksRun w 2 3 := by
  have hdisk := Volume.size_zeros_lt_greatest
  have hkeeps := Device.keeps_memory 512
  obtain ⟨vol, w, hmount⟩ := Volume.exists_mount_zeros (s := Bytes.zeros 3000320) hkeeps rfl
    (by dsimp only)
  generalize Bytes.zeros 3000320 = disk at hdisk hmount ⊢
  have hw : w.state = disk := congrArg View.disk (Volume.opened_of_mount hkeeps hdisk hmount).1
  have hcount : (2 : UInt16).toNat + 3 < 0x100000000 := by decide
  exact ⟨vol, w, hmount, chain_linked hdisk hmount (by decide) (by rw [hw]) hcount⟩

end FatImage
