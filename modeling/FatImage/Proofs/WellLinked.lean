import FatImage.Proofs.Session

/-!
# The table is well linked

What the allocation table says after any session, stated without the
picture: the mirrors are the same, the clusters up to the cursor belong to
exactly one file each, the link of each of them leads to the next cluster
or ends the chain, and all other links are zero.

Nothing of this needs the directory. Where sectors do not hold whole
records the slots that are found may be odd, but every record still goes
into the root directory, and the table does not see it. So the invariant
here, `Linked`, is about the table alone, and the sector size is free.
-/

namespace FatImage

variable {σ τ : Type} {look : σ → ByteArray × τ} {v : View τ} {vol : Volume σ}
variable {l : Layout} {b : ByteArray} {fs : List File} {f : File}

/-! ## The clusters of placed files -/

namespace PlacedFile

/-- The first cluster, and how many there are. -/
def run (p : PlacedFile) : Nat × Nat :=
  (p.start.toNat, p.clusters.toNat)

/-- The cluster `c` is one of the file. -/
def Owns (p : PlacedFile) (c : Nat) : Prop :=
  p.run.1 ≤ c ∧ c < p.run.1 + p.run.2

/-- The cluster `c` is the last one of the file. -/
def EndsAt (p : PlacedFile) (c : Nat) : Prop :=
  p.Owns c ∧ c + 1 = p.run.1 + p.run.2

end PlacedFile

namespace Layout

/-- The clusters of the files: the first one and how many, for each file. -/
def runs (l : Layout) (fs : List File) : List (Nat × Nat) :=
  (l.located fs).map fun q =>
    (if l.clustersOf q.2 = 0 then 0 else q.1, l.clustersOf q.2)

theorem runs_append : l.runs (fs ++ [f]) = l.runs fs ++
    [(if l.clustersOf f = 0 then 0 else l.nextCluster fs, l.clustersOf f)] := by
  rw [runs, located_append, List.map_append]
  rfl

/-- Each file starts behind all those before it. -/
theorem pairwise_located (l : Layout) (fs : List File) :
    (l.located fs).Pairwise fun q q' => q.1 + l.clustersOf q.2 ≤ q'.1 := by
  induction fs using List.reverseRecOn with
  | nil => exact List.Pairwise.nil
  | append_singleton fs f ih =>
      rw [located_append, List.pairwise_append]
      refine ⟨ih, List.pairwise_singleton _ _, ?_⟩
      intro q hq q' hq'
      rw [List.mem_singleton.1 hq']
      exact (located_end_le hq).2

/-- Every cluster before the next one belongs to a file. -/
theorem exists_owner {c : Nat} (hc : 2 ≤ c) (hnext : c < l.nextCluster fs) :
    ∃ q ∈ l.located fs, q.1 ≤ c ∧ c < q.1 + l.clustersOf q.2 := by
  induction fs using List.reverseRecOn with
  | nil =>
      rw [nextCluster_nil] at hnext
      omega
  | append_singleton fs f ih =>
      rw [nextCluster_append] at hnext
      rw [located_append]
      rcases Nat.lt_or_ge c (l.nextCluster fs) with hlt | hge
      · obtain ⟨q, hq, hown⟩ := ih hlt
        exact ⟨q, List.mem_append_left _ hq, hown⟩
      · exact ⟨_, List.mem_append_right _ List.mem_cons_self, hge, hnext⟩

section Runs

variable {ps : List PlacedFile} (hruns : ps.map PlacedFile.run = l.runs fs)
include hruns

theorem exists_located_of_owns {p : PlacedFile} (hp : p ∈ ps) {c : Nat} (hc : p.Owns c) :
    ∃ q ∈ l.located fs, p.run = (q.1, l.clustersOf q.2) := by
  have hmem : p.run ∈ l.runs fs := by
    rw [← hruns]
    exact List.mem_map_of_mem hp
  obtain ⟨q, hq, hrun⟩ := List.mem_map.1 hmem
  have hlen : l.clustersOf q.2 = p.run.2 := by rw [← hrun]
  have hown : 0 < p.run.2 := by
    have := hc.1
    have := hc.2
    omega
  rw [if_neg (by omega)] at hrun
  exact ⟨q, hq, hrun.symm⟩

theorem exists_placed_of_located {q : Nat × File} (hq : q ∈ l.located fs)
    (hn : l.clustersOf q.2 ≠ 0) : ∃ p ∈ ps, p.run = (q.1, l.clustersOf q.2) := by
  have hmem : (q.1, l.clustersOf q.2) ∈ ps.map PlacedFile.run := by
    rw [hruns]
    refine List.mem_map.2 ⟨q, hq, ?_⟩
    rw [if_neg hn]
  obtain ⟨p, hp, hrun⟩ := List.mem_map.1 hmem
  exact ⟨p, hp, hrun⟩

theorem pairwise_not_owns : ps.Pairwise fun p p' => ∀ c, ¬ (p.Owns c ∧ p'.Owns c) := by
  have hpair : (ps.map PlacedFile.run).Pairwise fun r r' =>
      ∀ c, ¬ ((r.1 ≤ c ∧ c < r.1 + r.2) ∧ (r'.1 ≤ c ∧ c < r'.1 + r'.2)) := by
    rw [hruns, runs, List.pairwise_map]
    refine (pairwise_located l fs).imp ?_
    intro q q' hle c hc
    simp only [] at hc
    split at hc <;> split at hc <;> omega
  rw [List.pairwise_map] at hpair
  exact hpair

theorem exists_owns_iff {c : Nat} :
    (∃ p ∈ ps, p.Owns c) ↔ 2 ≤ c ∧ c < l.nextCluster fs := by
  constructor
  · intro h
    obtain ⟨p, hp, hc⟩ := h
    obtain ⟨q, hq, hrun⟩ := exists_located_of_owns hruns hp hc
    have hend := located_end_le hq
    rw [PlacedFile.Owns, hrun] at hc
    simp only [] at hc
    omega
  · intro h
    obtain ⟨q, hq, hstart, hend⟩ := exists_owner h.1 h.2
    obtain ⟨p, hp, hrun⟩ := exists_placed_of_located hruns hq (by omega)
    refine ⟨p, hp, ?_⟩
    rw [PlacedFile.Owns, hrun]
    exact ⟨hstart, hend⟩

end Runs

/-! ## The links -/

theorem TableOn.linkAt_eq (h : l.TableOn b fs) {i c : Nat} (hi : i < l.mirrors)
    (hc : 2 * c + 2 ≤ l.mirrorBytes) :
    l.linkAt b i c = Bytes.word16At (l.table fs) (2 * c) := by
  rw [linkAt, Bytes.word16At, Bytes.word16At, h i hi _ (by omega), Nat.add_assoc,
    h i hi _ (by omega)]

theorem TableOn.linkAt_owned (h : l.TableOn b fs) {size i c : Nat} (hi : i < l.mirrors)
    (hreach : l.Reach size (l.nextCluster fs)) {q : Nat × File} (hq : q ∈ l.located fs)
    (hstart : q.1 ≤ c) (hend : c < q.1 + l.clustersOf q.2) :
    l.linkAt b i c = if c + 1 = q.1 + l.clustersOf q.2 then endOfChain
      else (c + 1).toUInt16 := by
  have hlocated := located_end_le hq
  have hlinked := hreach.linked
  have hk : c = q.1 + (c - q.1) := by omega
  rw [h.linkAt_eq hi (by omega), hk, word16At_table hq (by omega)]
  split
  · next hlast => rw [if_pos (by omega)]
  · next hmore => rw [if_neg (by omega)]

theorem TableOn.linkAt_free (h : l.TableOn b fs) {i c : Nat} (hi : i < l.mirrors)
    (hnext : l.nextCluster fs ≤ c) (hroom : 2 * c + 2 ≤ l.mirrorBytes) :
    l.linkAt b i c = 0 := by
  rw [h.linkAt_eq hi hroom, Bytes.word16At, byteAt_table_of_le (by omega),
    byteAt_table_of_le (by omega)]
  rfl

/-- A cluster before the next one: its link, and whether a file ends there. -/
theorem TableOn.linkAt_cases (h : l.TableOn b fs) {size : Nat}
    (hreach : l.Reach size (l.nextCluster fs)) {ps : List PlacedFile}
    (hruns : ps.map PlacedFile.run = l.runs fs) {i c : Nat} (hi : i < l.mirrors)
    (hc : 2 ≤ c) (hnext : c < l.nextCluster fs) :
    (l.linkAt b i c = endOfChain ∧ ∃ p ∈ ps, p.EndsAt c) ∨
    ((l.linkAt b i c).toNat = c + 1 ∧ c + 1 < l.nextCluster fs ∧
      ¬ ∃ p ∈ ps, p.EndsAt c) := by
  have hcounted := hreach.counted
  have hmark : endOfChain.toNat = 0xFFFF := rfl
  obtain ⟨q, hq, hstart, hend⟩ := exists_owner hc hnext
  have hlink := h.linkAt_owned hi hreach hq hstart hend
  have hlocated := (located_end_le hq).2
  rcases Nat.eq_or_lt_of_le (show c + 1 ≤ q.1 + l.clustersOf q.2 from hend) with
    hlast | hmore
  · obtain ⟨p, hp, hrun⟩ := exists_placed_of_located hruns hq (by omega)
    rw [if_pos hlast] at hlink
    refine Or.inl ⟨hlink, p, hp, ?_⟩
    rw [PlacedFile.EndsAt, PlacedFile.Owns, hrun]
    exact ⟨⟨hstart, hend⟩, hlast⟩
  · rw [if_neg (by omega)] at hlink
    have hnat : (l.linkAt b i c).toNat = c + 1 := by
      rw [hlink, toNat_toUInt16 (by omega)]
    refine Or.inr ⟨hnat, by omega, ?_⟩
    -- the file that ends here would own the cluster too, and its link is the end mark
    intro hended
    obtain ⟨p, hp, hown, hpend⟩ := hended
    obtain ⟨q', hq', hrun⟩ := exists_located_of_owns hruns hp hown
    rw [PlacedFile.Owns, hrun] at hown
    rw [hrun] at hpend
    have hlink' := h.linkAt_owned hi hreach hq' hown.1 hown.2
    rw [if_pos hpend] at hlink'
    rw [hlink', hmark] at hnat
    omega

/-- What the table of a volume says, with these files placed on it and `next`
the next cluster. -/
structure WellLinked (l : Layout) (b : ByteArray) (ps : List PlacedFile) (next : Nat) :
    Prop where
  sized : ∀ p ∈ ps, p.clusters.toNat = l.clustersFor p.size.toNat
  alike : ∀ i < l.mirrors, ∀ j < l.mirrors,
    Bytes.slice b (l.mirrorStart i) l.mirrorBytes =
      Bytes.slice b (l.mirrorStart j) l.mirrorBytes
  header : ∀ i < l.mirrors, Bytes.slice b (l.mirrorStart i) 4 = mediaHeader
  disjoint : ps.Pairwise fun p q => ∀ c, ¬ (p.Owns c ∧ q.Owns c)
  owned : ∀ c, (∃ p ∈ ps, p.Owns c) ↔ 2 ≤ c ∧ c < next
  ended : ∀ i < l.mirrors, ∀ c, 2 ≤ c → c < next →
    (l.linkAt b i c = endOfChain ↔ ∃ p ∈ ps, p.EndsAt c)
  linked : ∀ i < l.mirrors, ∀ c, 2 ≤ c → c < next →
    l.linkAt b i c ≠ endOfChain → (l.linkAt b i c).toNat = c + 1
  free : ∀ i < l.mirrors, ∀ c, next ≤ c → 2 * c + 2 ≤ l.mirrorBytes → l.linkAt b i c = 0
  plain : ∀ i < l.mirrors, ∀ c, 2 ≤ c → 2 * c + 2 ≤ l.mirrorBytes →
    (l.linkAt b i c).toNat ≠ 1 ∧ (l.linkAt b i c).toNat ≠ 2 ∧
      ((l.linkAt b i c).toNat < 0xFFF0 ∨ l.linkAt b i c = endOfChain)

theorem TableOn.alike (h : l.TableOn b fs) (hroot : l.rootStart ≤ b.size) {i j : Nat}
    (hi : i < l.mirrors) (hj : j < l.mirrors) :
    Bytes.slice b (l.mirrorStart i) l.mirrorBytes =
      Bytes.slice b (l.mirrorStart j) l.mirrorBytes := by
  have hiend := mirror_end_le_root hi
  have hjend := mirror_end_le_root hj
  refine Bytes.slice_congr (by omega) (by omega) fun k hk => ?_
  rw [h i hi k hk, h j hj k hk]

theorem TableOn.slice_header (h : l.TableOn b fs) (hroot : l.rootStart ≤ b.size)
    (hfour : 4 ≤ l.mirrorBytes) {i : Nat} (hi : i < l.mirrors) :
    Bytes.slice b (l.mirrorStart i) 4 = mediaHeader := by
  have hiend := mirror_end_le_root hi
  have hheader : mediaHeader.size = 4 := length_mediaHeader
  rw [← hheader]
  refine Bytes.slice_eq (by omega) fun k hk => ?_
  rw [h i hi k (by omega), byteAt_table_of_lt_four (by omega)]

theorem TableOn.wellLinked (h : l.TableOn b fs)
    (hreach : l.Reach b.size (l.nextCluster fs)) {ps : List PlacedFile}
    (hsized : ∀ p ∈ ps, p.clusters.toNat = l.clustersFor p.size.toNat)
    (hruns : ps.map PlacedFile.run = l.runs fs) : l.WellLinked b ps (l.nextCluster fs) := by
  have hcounted := hreach.counted
  have hmark : endOfChain.toNat = 0xFFFF := rfl
  have hroot : l.rootStart ≤ b.size :=
    Nat.le_trans (rootStart_le_data l) hreach.dataStart_le
  have hfour : 4 ≤ l.mirrorBytes := by
    have := hreach.first
    have := hreach.linked
    omega
  refine ⟨hsized, fun i hi j hj => h.alike hroot hi hj, fun i hi => h.slice_header hroot hfour hi,
    pairwise_not_owns hruns, fun _ => exists_owns_iff hruns, ?_, ?_,
    fun i hi c hnext hroom => h.linkAt_free hi hnext hroom, ?_⟩
  · intro i hi c hc hnext
    rcases h.linkAt_cases hreach hruns hi hc hnext with ⟨hlink, hended⟩ | ⟨hnat, _, hnot⟩
    · exact ⟨fun _ => hended, fun _ => hlink⟩
    · constructor
      · intro hlink
        rw [hlink, hmark] at hnat
        omega
      · intro hended
        exact absurd hended hnot
  · intro i hi c hc hnext hne
    rcases h.linkAt_cases hreach hruns hi hc hnext with ⟨hlink, _⟩ | ⟨hnat, _, _⟩
    · exact absurd hlink hne
    · exact hnat
  · intro i hi c hc hroom
    rcases Nat.lt_or_ge c (l.nextCluster fs) with hnext | hnext
    · rcases h.linkAt_cases hreach hruns hi hc hnext with ⟨hlink, _⟩ | ⟨hnat, hmore, _⟩
      · rw [hlink, hmark]
        exact ⟨by decide, by decide, Or.inr rfl⟩
      · rw [hnat]
        exact ⟨by omega, by omega, Or.inl (by omega)⟩
    · rw [h.linkAt_free hi hnext hroom]
      exact ⟨by decide, by decide, Or.inl (by decide)⟩

end Layout

namespace Volume

/-! ## Sessions keep the table well linked -/

/-- The invariant of a session, as far as the table goes. -/
structure Linked (vol : Volume σ) (done : List (File × PlacedFile)) (cursor : Cursor)
    (v : View τ) : Prop where
  length : vol.image.length ≤ v.disk.size
  table : vol.layout.TableOn v.disk (done.map Prod.fst)
  reach : vol.layout.Reach vol.image.length (vol.layout.nextCluster (done.map Prod.fst))
  sized : ∀ x ∈ done, x.2.clusters.toNat = vol.layout.clustersFor x.2.size.toNat
  runs : done.map (fun x => x.2.run) = vol.layout.runs (done.map Prod.fst)
  next : cursor.cluster.toNat = vol.layout.nextCluster (done.map Prod.fst)

theorem PlacedAt.run_eq {c : Nat} {v' : View τ} {p : PlacedFile} {next : Cursor}
    (h : PlacedAt vol c f v v' p next) (hs : 0 < vol.layout.sectorSize)
    (hc : c ≤ 0xFFF0) :
    p.run = (if vol.layout.clustersOf f = 0 then 0 else c, vol.layout.clustersOf f) := by
  have hclusters : p.clusters.toNat = vol.layout.clustersOf f := by
    rw [h.place]
    exact Layout.placement_clusters_toNat hs h.size
  have hstart : p.start.toNat = if vol.layout.clustersOf f = 0 then 0 else c := by
    rw [h.place]
    split
    · next h0 =>
        rw [Layout.placement, if_pos h0]
        rfl
    · next hn => exact Layout.placement_start_toNat hc hn
  rw [PlacedFile.run, hclusters, hstart]

theorem PlacedAt.sized {c : Nat} {v' : View τ} {p : PlacedFile} {next : Cursor}
    (h : PlacedAt vol c f v v' p next) (hs : 0 < vol.layout.sectorSize) :
    p.clusters.toNat = vol.layout.clustersFor p.size.toNat := by
  rw [h.place, Layout.placement_clusters_toNat hs h.size,
    Layout.placement_size_toNat _ _ _ h.size]
  rfl

theorem Linked.place (hstands : vol.Whole look False)
    {done : List (File × PlacedFile)} {cursor : Cursor} (h : Linked vol done cursor v) :
    (vol.place cursor f.name f.data).Ends (World.view look) v
      (fun r v' => Linked vol (done ++ [(f, r.1)]) r.2 v')
      (fun _ v' => Linked vol done cursor v') := by
  have hs := hstands.sectorSize_pos
  refine (hstands.place_or_same h.length h.next h.reach).mono ?_ ?_
  · intro r v' hr
    have hfirst := h.reach.first
    have hreach := hr.reach.size_mono h.length
    have hseen := hr.seen
    have hrun := hr.run_eq hs h.reach.counted
    have hsized := hr.sized hs
    subst hseen
    refine ⟨?_, ?_, ?_, ?_, ?_, ?_⟩
    · rw [hreach.size_withFile hs hfirst hr.slot]
      exact h.length
    · rw [List.map_append]
      refine h.table.append hs ?_ hr.slot
      rw [Layout.nextCluster_append]
      exact hreach
    · rw [List.map_append, List.map_singleton, Layout.nextCluster_append]
      exact hr.reach
    · intro x hx
      rcases List.mem_append.1 hx with hx | hx
      · exact h.sized x hx
      · rw [List.mem_singleton.1 hx]
        exact hsized
    · rw [List.map_append, List.map_append, h.runs, List.map_singleton,
        List.map_singleton, Layout.runs_append, ← hrun]
    · rw [List.map_append, List.map_singleton, Layout.nextCluster_append]
      exact hr.next
  · intro _ v' hv'
    rw [hv']
    exact h

end Volume

/-- However the calls of a session on a disk in memory went, and however large
its sectors are: the table is well linked for the files that were placed,
with the cursor as the next cluster. Only on a disk where the tables of the
layout do not fit does a session not come past its reset. -/
theorem session_well_linked {sectorSize : Nat} {disk : ByteArray}
    {vol : Volume ByteArray} {w : World ByteArray}
    (hmount : (Volume.mount (Device.memory sectorSize) l).start disk = (.ok vol, w))
    (hdisk : disk.size < diskLimit) (hnarrow : l.Narrow) (hmirror : 0 < l.mirrorSectors)
    (calls : List File) :
    (l.Bounded → ∃ r w', vol.session calls w = .ok r w') ∧
    ∀ done cursor w', vol.session calls w = .ok (done, cursor) w' →
      l.WellLinked w'.state (done.map Prod.snd) cursor.cluster.toNat := by
  have hkeeps := Device.keeps_memory sectorSize
  have hcounted : disk.size < Image.greatest := Nat.lt_trans hdisk (by decide)
  obtain ⟨hw, rfl, hopened, -⟩ := Volume.opened_of_mount hkeeps hcounted hmount
  have hlength := Volume.length_le_of_mount hkeeps hcounted hmount
  have hempty : vol.Whole (fun disk => (disk, ())) False →
      Volume.Linked vol [] Cursor.start ⟨vol.layout.picture disk [], (), []⟩ := by
    intro h
    have hnil : Volume.Sound vol disk [] ⟨vol.layout.picture disk [], (), []⟩ :=
      Volume.sound_nil h hlength (h.four_le_mirrorBytes hmirror)
    exact ⟨hnil.length, hnil.holds.table, hnil.reach, nofun, rfl, rfl⟩
  have hsession := hopened.session (Volume.Linked vol) (v := ⟨disk, (), []⟩)
    hlength hnarrow (Nat.lt_of_le_of_lt hlength hdisk) hmirror calls hempty
    (fun h f _ done cursor v hv => hv.place h)
  refine ⟨fun hbounded => ?_, ?_⟩
  · obtain ⟨r, w', hok, -⟩ :=
      (hsession.mono (fun _ _ hr => hr) (fun _ _ hstop => hstop hbounded)).exists_ok hw
    exact ⟨r, w', hok⟩
  · intro done cursor w' hok
    obtain ⟨-, hlinked⟩ := hsession.of_ok hw hok
    rw [hlinked.next]
    refine hlinked.table.wellLinked (hlinked.reach.size_mono hlinked.length) ?_ ?_
    · intro p hp
      obtain ⟨x, hx, rfl⟩ := List.mem_map.1 hp
      exact hlinked.sized x hx
    · rw [List.map_map]
      exact hlinked.runs

theorem session_well_linked_bootDisk : ∃ (vol : Volume ByteArray) (w : World ByteArray),
    (Volume.mount (Device.memory 512) Layout.bootDisk).start (Bytes.zeros 3000320) =
      (.ok vol, w) ∧
    ∃ done cursor w', vol.session threeFiles w = .ok (done, cursor) w' ∧
      Layout.bootDisk.WellLinked w'.state (done.map Prod.snd) cursor.cluster.toNat := by
  have hdisk := Volume.size_zeros_lt_diskLimit
  obtain ⟨vol, w, hmount⟩ := Volume.exists_mount_zeros (Device.keeps_memory 512) rfl rfl
  obtain ⟨hends, hlinked⟩ := session_well_linked hmount hdisk Layout.narrow_bootDisk
    (by decide) threeFiles
  obtain ⟨⟨done, cursor⟩, w', hok⟩ := hends Layout.uncut_bootDisk.bounded
  exact ⟨vol, w, hmount, done, cursor, w', hok, hlinked done cursor w' hok⟩

end FatImage
