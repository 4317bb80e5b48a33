import FatImage.Proofs.Walk

/-!
# Chains, linked and followed

The links of a new chain are one run of bytes in each mirror, so linking is
`onMirrors` with the links of consecutive clusters. If the device fails on
the way, some mirrors have the links and others do not; all that was written
is spare then.

The chain of a file is followed from its first cluster to its last: what
stops the walk is the end mark. A link to a cluster of the same file never
looks like an end, and the budget, which is there for broken tables, is
greater than any chain.
-/

namespace FatImage

variable {σ τ : Type} {look : σ → ByteArray × τ} {faulty : Prop} {v : View τ}
variable {vol : Volume σ} {l : Layout} {fs : List File}

/-- The links as they are computed for writing, as long as the numbers of the
clusters do not run over. -/
theorem chainLinks_eq {start : UInt16} {n : Nat} (hn : n ≠ 0) :
    chainLinks start n = Layout.linksFrom start.toNat n := by
  obtain ⟨m, rfl⟩ := Nat.exists_eq_succ_of_ne_zero hn
  rw [chainLinks, Layout.linksFrom, List.range_succ, List.map_append, Nat.succ_sub_one]
  congr 1
  · rw [List.range'_eq_map_range, List.map_map]
    refine List.map_congr_left fun i hi => ?_
    have hi' := List.mem_range.1 hi
    rw [Function.comp_apply, if_neg (by omega)]
    apply UInt16.toNat_inj.mp
    simp
    omega
  · simp

namespace Volume

theorem Stands.linkChain (h : vol.Stands look faulty)
    (hv : vol.image.length ≤ v.disk.size) {start : UInt16} {c n : Nat}
    (hstart : n ≠ 0 → start.toNat = c) (hlimit : n ≠ 0 → c + n ≤ vol.layout.clusterLimit) :
    (vol.linkChain start n).Ends (World.view look) v
      (fun _ v' => v' = { v with
        disk := vol.layout.onMirrors v.disk (2 * c) (Layout.linkBytes c n)
          vol.layout.mirrors })
      (fun e v' => (e = .deviceFailed ∧ faulty) ∧
        ∃ b, vol.layout.SpareOnly c v.disk b ∧ v' = { v with disk := b }) := by
  rcases Nat.eq_zero_or_pos n with rfl | hn
  · rw [Layout.onMirrors_of_size_eq_zero (Layout.size_linkBytes c 0)]
    exact Action.ends_pure rfl
  · have hn' : n ≠ 0 := by omega
    have hlast := hlimit hn'
    have hcounted := Layout.clusterLimit_le vol.layout
    have hcheck : vol.layout.checkChain start n = .ok () :=
      (Layout.checkChain_eq_ok_iff (by omega)).2 fun _ => by rw [hstart hn']; omega
    have hsize := Layout.size_linkBytes c n
    have hmirror := Layout.two_mul_clusterLimit_le vol.layout
    have hfits : 2 * c + (Layout.linkBytes c n).size ≤ vol.layout.mirrorBytes := by omega
    have hroot := Layout.rootStart_le_data vol.layout
    have hdata := h.data
    have hbytes : ((chainLinks start n).flatMap Bytes.littleEndian16).toByteArray =
        Layout.linkBytes c n := by
      rw [chainLinks_eq hn', hstart hn', Layout.linkBytes]
    unfold Volume.linkChain
    rw [hcheck]
    show Action.Ends (do
      if n ≠ 0 then
        Action.forEach (fun i => vol.image.writeAt (vol.layout.linkOffset i start)
          ((chainLinks start n).flatMap Bytes.littleEndian16).toByteArray)
          vol.layout.mirrors 0) _ _ _ _
    rw [if_pos hn', hbytes]
    -- before the round of mirror `i` those below it have the links
    refine (Action.ends_forEach (fun i v' => v' = { v with
      disk := vol.layout.onMirrors v.disk (2 * c) (Layout.linkBytes c n) i }) ?_ rfl).mono
      ?_ (fun _ _ he => he)
    · intro i v' _ hi hv'
      subst hv'
      have hround := Layout.size_onMirrors (l := vol.layout) (k := i) (b := v.disk) hfits
        (by omega) (by omega)
      have hend := Layout.mirror_end_le_root (l := vol.layout) (i := i) (by omega)
      have hoffset : vol.layout.linkOffset i start = vol.layout.mirrorStart i + 2 * c := by
        rw [h.bounded.linkOffset_eq (by omega) (by rw [hstart hn']; omega), Layout.linkStart_eq,
          hstart hn']
      rw [hoffset]
      refine (h.backed.writeAt (by simp only [hround]; exact hv) (by omega)).mono ?_ ?_
      · intro _ v₁ hv₁
        rw [hv₁, Layout.onMirrors_succ]
      · intro e v₁ hv₁
        obtain ⟨he, b, htorn, rfl⟩ := hv₁
        refine ⟨he, b, ?_, rfl⟩
        refine (Layout.spareOnly_onMirrors hfits (by omega) (by omega)).trans
          (Layout.spareOnly_torn htorn (by simp only [hround]; omega) ?_)
        intro x hx hx'
        exact Layout.spare_link (show i < vol.layout.mirrors by omega) hfits hx hx'
    · intro _ v' hv'
      rwa [Nat.zero_add] at hv'

theorem Stands.chain (h : vol.Stands look faulty)
    (hv : vol.image.length ≤ v.disk.size) (hmirrors : 0 < vol.layout.mirrors)
    (hb : vol.layout.Legible v.disk fs)
    (hreach : vol.layout.Reach vol.image.length (vol.layout.nextCluster fs))
    {p : Nat × File} (hp : p ∈ vol.layout.located fs) (slot : Nat) :
    (vol.chain (vol.layout.placement slot p.1 p.2).start).Reads look faulty v
      (clustersFrom p.1 (vol.layout.clustersOf p.2)) := by
  have hlocated := Layout.located_end_le hp
  have hcounted := hreach.counted
  have hlimit := hreach.limit
  rcases Nat.eq_zero_or_pos (vol.layout.clustersOf p.2) with h0 | hpos
  · rw [Layout.placement, if_pos h0, h0]
    exact Action.ends_pure ⟨rfl, rfl⟩
  · rw [Layout.placement, if_neg (by omega)]
    exact h.chain_run hv hmirrors hlocated.1 hpos (by omega) fun k hk =>
      hb.linkAt_eq hmirrors hp hk

end Volume

end FatImage
