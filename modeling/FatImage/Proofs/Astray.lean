import FatImage.Proofs.Cycle

/-!
# Where chains go astray

A mirror has links for the clusters below the limit, and a chain is only given
out for such. Followed, it is held against another number: a link ends it from
the first reserved one on, which is the same for every layout. Between the two
there are numbers that have no link in a table of fewer clusters. A link to one
of them is followed, and what is read in place of the next comes from behind the
mirror: from another mirror, from the directory, from the bytes of a file, or
from behind the end of the image, and then the whole chain fails.

`InTable` says that none of this happens. It does not just as long as all
clusters that are reached can be linked (`chain_inTable_iff`): a chain that
stays in the table is either whole or has come to some cluster twice, so it has
been everywhere. And every table is safe only if there are no numbers between the
two, that is, if the table is as long as tables can be, or if it has no data
cluster to start from.
-/

namespace FatImage

variable {σ τ : Type} {look : σ → ByteArray × τ} {w : World σ} {vol : Volume σ}

namespace Layout

/-- Both disks have the same bytes in the first mirror. -/
def SameTable (l : Layout) (b b' : ByteArray) : Prop :=
  ∀ x, l.mirrorStart 0 ≤ x → x < l.mirrorStart 0 + l.mirrorBytes →
    Bytes.byteAt b' x = Bytes.byteAt b x

/-- The link of `c` is looked for in the first mirror. -/
def LinkInTable (l : Layout) (c : UInt16) : Prop :=
  l.mirrorStart 0 ≤ l.linkOffset 0 c ∧
    l.linkOffset 0 c + 2 ≤ l.mirrorStart 0 + l.mirrorBytes

variable {l : Layout} {b b' : ByteArray} {c : UInt16}

theorem Bounded.linkInTable (h : l.Bounded) (hmirrors : 0 < l.mirrors)
    (hc : c.toNat < l.clusterLimit) : l.LinkInTable c := by
  have hlimit := two_mul_clusterLimit_le l
  rw [LinkInTable, h.linkOffset_eq hmirrors (by omega), linkStart_eq]
  omega

theorem SameTable.linkRead_eq (h : l.SameTable b b') (hc : l.LinkInTable c) :
    l.linkRead b' 0 c = l.linkRead b 0 c := by
  rw [LinkInTable] at hc
  rw [linkRead, linkRead, Bytes.word16At, Bytes.word16At, h _ (by omega) (by omega),
    h _ (by omega) (by omega)]

end Layout

namespace Volume

/-- The chain of `start` is answered, it consists of clusters that can be linked, each
link that is read is in the first mirror, and no other byte is of any account. -/
def InTable (vol : Volume ByteArray) (w : World ByteArray) (start : UInt16) : Prop :=
  ∃ cs w', vol.chain start w = .ok cs w' ∧
    w'.calls = w.calls ++ cs.flatMap vol.linkCalls ∧
    (∀ c ∈ cs, c.toNat < vol.layout.clusterLimit ∧ vol.layout.LinkInTable c) ∧
    ∀ w₁ : World ByteArray, w₁.state.size = w.state.size →
      vol.layout.SameTable w.state w₁.state → ∃ w₁', vol.chain start w₁ = .ok cs w₁'

section

variable (h : vol.Opened look False) (hv : vol.image.length ≤ (look w.state).1.size)
variable {start : UInt16} (hstart : 2 ≤ start.toNat)
include h hv hstart

/-- A chain of clusters that can be linked has come to everything that is reached. -/
theorem Opened.mem_of_reaches {cs : List UInt16} {w' : World σ}
    (hok : vol.chain start w = .ok cs w')
    (hlinked : ∀ c ∈ cs, c.toNat < vol.layout.clusterLimit) {c : UInt16}
    (hc : vol.Reaches w start c) : c ∈ cs := by
  obtain ⟨hwalk, -, hchain⟩ := h.chain_walks hv hstart hok
  have hhead := Layout.head?_walk vol.layout (look w.state).1 (vol.layout.clusterLimit - 1) start
  have hstops := Layout.walk_stops vol.layout (look w.state).1
    (vol.layout.clusterLimit - 1) start
  rw [← hwalk] at hhead hstops
  have hstarts : start ∈ cs := List.mem_of_mem_head? hhead
  rcases hstops with hspent | ⟨last, hlast, hends⟩
  · -- as many as that cannot all be different
    refine mem_of_not_nodup (vol.rightUnique_leadsTo w) hchain hhead (fun hnodup => ?_) hc
    have hlimit := hlinked start hstarts
    have hlength := length_le_of_nodup hnodup fun c hc =>
      ⟨two_le_of_reaches hstart (h.reaches_of_mem hv hstart hok hc), hlinked c hc⟩
    omega
  · exact h.mem_of_last hv hstart hok hlast hends hc

end

section

variable {vol : Volume ByteArray} {w : World ByteArray}
variable (h : vol.Stands (fun disk => (disk, ())) False) (hv : vol.image.length ≤ w.state.size)
variable (hmirrors : 0 < vol.layout.mirrors) {start : UInt16} (hstart : 2 ≤ start.toNat)
include h hv hmirrors hstart

theorem Stands.inTable (hstays : vol.StaysLinked w start) : vol.InTable w start := by
  have hlinked : ∀ c ∈ vol.layout.walk w.state (vol.layout.clusterLimit - 1) start,
      c.toNat < vol.layout.clusterLimit := fun c hc =>
    hstays c (h.opened.reaches_of_mem_walk hv
      (fun c hc => h.linkInRange hmirrors (hstays c hc)) hc)
  have hrange := fun c hc => h.linkInRange hmirrors (hlinked c hc)
  have hintable := fun c hc => h.bounded.linkInTable hmirrors (hlinked c hc)
  have hanswers : ∀ w₁ : World ByteArray, w₁.state.size = w.state.size →
      vol.layout.SameTable w.state w₁.state → ∃ w₁', vol.chain start w₁ =
        .ok (vol.layout.walk w.state (vol.layout.clusterLimit - 1) start) w₁' := by
    intro w₁ hsize hsame
    have hwalk := Layout.walk_congr fun c hc => hsame.linkRead_eq (hintable c hc)
    rw [← hwalk] at hrange ⊢
    have hreads := h.opened.chain_walk (v := World.view (fun disk => (disk, ())) w₁)
      (Nat.le_trans hv (Nat.le_of_eq hsize.symm)) hstart hrange
    exact (hreads.ok_iff rfl).2 rfl
  obtain ⟨w', hok⟩ := hanswers w rfl fun _ _ _ => rfl
  refine ⟨_, w', hok, (vol.chain_calls hstart).of_ok rfl hok, fun c hc => ?_, hanswers⟩
  exact ⟨hlinked c hc, hintable c hc⟩

theorem Stands.inTable_iff : vol.InTable w start ↔ vol.StaysLinked w start := by
  refine ⟨?_, h.inTable hv hmirrors hstart⟩
  rintro ⟨cs, w', hok, -, hlinked, -⟩ c hc
  have hmem : c ∈ cs := h.opened.mem_of_reaches hv hstart hok (fun c hc => (hlinked c hc).1) hc
  exact (hlinked c hmem).1

end

end Volume

/-! ## Tables with numbers to go astray to -/

/-- A link to the first number that cannot be linked leads out of the table, unless it
ends the chain. If what it leads to is on the image, the number is answered. -/
theorem Volume.exists_mount_astray {l : Layout} {size : Nat}
    (haccepted : l.Accepted l.sectorSize size) (hcounted : size < Image.greatest)
    (hmirrors : 0 < l.mirrors) (hlimit : 2 < l.clusterLimit)
    (hreserved : l.clusterLimit < 0xFFF0) :
    (l.oneLink size l.clusterLimit.toUInt16).size = size ∧
    ∃ vol w, (Volume.mount (Device.memory l.sectorSize) l).start
        (l.oneLink size l.clusterLimit.toUInt16) = (.ok vol, w) ∧
      ¬ vol.InTable w 2 ∧
      (l.mirrorStart 0 + 2 * l.clusterLimit + 2 ≤ size / l.sectorSize * l.sectorSize →
        ∃ w', vol.chain 2 w = .ok [2, l.clusterLimit.toUInt16] w') := by
  have hkeeps := Device.keeps_memory l.sectorSize
  have hnat : (l.clusterLimit.toUInt16).toNat = l.clusterLimit :=
    Layout.toNat_toUInt16 (by omega)
  have htwo : (2 : UInt16).toNat = 2 := rfl
  have hbounded := haccepted.bounded hcounted
  have hlinks := Layout.two_mul_clusterLimit_le l
  have hroom := Layout.oneLink_fits haccepted hmirrors hlimit
  obtain ⟨hsize, vol, w, hmount, hlink⟩ := Volume.exists_mount_oneLink
    l.clusterLimit.toUInt16 haccepted hcounted hmirrors hlimit
  have hleads : l.Leads (l.oneLink size l.clusterLimit.toUInt16) 2 l.clusterLimit.toUInt16 :=
    ⟨(hbounded.linkRead_eq hmirrors (by omega)).trans (Layout.linkAt_oneLink _ hroom),
      by rw [endsChain_eq_false_iff]; omega⟩
  have hends : endsChain (l.linkRead (l.oneLink size l.clusterLimit.toUInt16) 0
      l.clusterLimit.toUInt16) = true := by
    rw [hbounded.linkRead_eq hmirrors (by omega),
      Layout.linkAt_oneLink_of_ne _ hroom (by omega)]
    rfl
  refine ⟨hsize, vol, w, hmount, ?_⟩
  generalize l.oneLink size l.clusterLimit.toUInt16 = disk at hsize hmount hleads hends
  subst hsize
  have hlength := Volume.length_of_mount hkeeps hcounted hmount
  obtain ⟨hw, rfl, hstands, hle, -⟩ := Volume.of_mount hkeeps hcounted hmount hbounded
  have hdisk : w.state = disk := congrArg View.disk hw
  have hv : vol.image.length ≤ w.state.size := by
    rw [hdisk]
    exact hle
  have hstep : vol.LeadsTo w 2 vol.layout.clusterLimit.toUInt16 := ⟨hlink, by omega, by omega⟩
  refine ⟨fun hin => ?_, fun hstored => ?_⟩
  · have hlt := (hstands.inTable_iff hv hmirrors (Nat.le_of_eq htwo.symm)).1 hin _
      (.single hstep)
    rw [hnat] at hlt
    exact Nat.lt_irrefl _ hlt
  · have hwalk : vol.layout.walk w.state (vol.layout.clusterLimit - 1) 2 =
        [2, vol.layout.clusterLimit.toUInt16] := by
      rw [hdisk, show vol.layout.clusterLimit - 1 = vol.layout.clusterLimit - 2 + 1 by omega,
        Layout.walk_of_leads hleads, Layout.walk_of_ends hends]
    have hchain := hstands.opened.chain_walk (v := World.view (fun disk => (disk, ())) w) hv
      (Nat.le_of_eq htwo.symm) fun c hc => ?_
    · exact (hchain.ok_iff rfl).2 hwalk.symm
    · rw [← hlength] at hstored
      refine Image.checkRange_eq_ok ?_
      have hc' : c = 2 ∨ c = vol.layout.clusterLimit.toUInt16 := by
        have hmem := hwalk ▸ hc
        rwa [List.mem_pair] at hmem
      rcases hc' with rfl | rfl <;>
        rw [hbounded.linkOffset_eq hmirrors (by omega), Layout.linkStart_eq] <;> omega

/-- A chain stays in the table just as long as everything that is reached can be
linked, and of a layout all chains do, whatever is on the disk, just if it has no data
cluster or as many as there can be. -/
theorem chain_inTable_iff {l : Layout} {size : Nat}
    (haccepted : l.Accepted l.sectorSize size) (hcounted : size < Image.greatest)
    (hmirrors : 0 < l.mirrors) :
    (∀ disk : ByteArray, disk.size = size → ∀ vol w,
        (Volume.mount (Device.memory l.sectorSize) l).start disk = (.ok vol, w) →
        ∀ start : UInt16, 2 ≤ start.toNat → start.toNat < l.clusterLimit →
        (vol.InTable w start ↔ vol.StaysLinked w start)) ∧
    ((∀ disk : ByteArray, disk.size = size → ∀ vol w,
        (Volume.mount (Device.memory l.sectorSize) l).start disk = (.ok vol, w) →
        ∀ start : UInt16, 2 ≤ start.toNat → start.toNat < l.clusterLimit →
        vol.InTable w start) ↔ l.clusterLimit ≤ 2 ∨ l.clusterLimit = 0xFFF0) := by
  have hbounded := haccepted.bounded hcounted
  have heach : ∀ disk : ByteArray, disk.size = size → ∀ vol w,
      (Volume.mount (Device.memory l.sectorSize) l).start disk = (.ok vol, w) →
      ∀ start : UInt16, 2 ≤ start.toNat → start.toNat < l.clusterLimit →
      (vol.InTable w start ↔ vol.StaysLinked w start) := by
    rintro disk rfl vol w hmount start hstart -
    obtain ⟨hw, rfl, hstands, hlength, -⟩ :=
      Volume.of_mount (Device.keeps_memory l.sectorSize) hcounted hmount hbounded
    have hdisk : w.state = disk := congrArg View.disk hw
    exact hstands.inTable_iff (by rw [hdisk]; exact hlength) hmirrors hstart
  refine ⟨heach, ?_, ?_⟩
  · intro hall
    have hle := Layout.clusterLimit_le l
    refine Decidable.byContradiction fun hno => ?_
    rw [not_or, Nat.not_le] at hno
    obtain ⟨hsize, vol, w, hmount, hastray, -⟩ :=
      Volume.exists_mount_astray haccepted hcounted hmirrors hno.1 (by omega)
    exact hastray (hall _ hsize vol w hmount 2 (Nat.le_refl 2) hno.1)
  · intro hroom disk hsize vol w hmount start hstart hlimit
    refine (heach disk hsize vol w hmount start hstart hlimit).2 fun c hc => ?_
    have hl : vol.layout = l := (Volume.opened_of_mount (Device.keeps_memory l.sectorSize)
      (by dsimp only; rwa [hsize]) hmount).2.1
    rw [hl]
    cases hc with
    | refl => exact hlimit
    | tail _ hstep =>
        have hlt := hstep.2.2
        omega

theorem chain_inTable_bootDisk :
    Layout.bootDisk.Accepted Layout.bootDisk.sectorSize 3000320 ∧
    3000320 < Image.greatest ∧ 0 < Layout.bootDisk.mirrors ∧
    ∀ disk : ByteArray, disk.size = 3000320 → ∀ vol w,
      (Volume.mount (Device.memory Layout.bootDisk.sectorSize) Layout.bootDisk).start disk =
        (.ok vol, w) →
      ∀ start : UInt16, 2 ≤ start.toNat → start.toNat < Layout.bootDisk.clusterLimit →
      vol.InTable w start := by
  have haccepted : Layout.bootDisk.Accepted Layout.bootDisk.sectorSize 3000320 :=
    Volume.accepted_bootDisk (by decide)
  exact ⟨haccepted, by decide, by decide,
    (chain_inTable_iff haccepted (by decide) (by decide)).2.2 (Or.inr (by decide))⟩

/-- Two mirrors of one sector each: there are links for the clusters below 256. -/
def Layout.shortTable : Layout where
  sectorSize := 512
  reservedSectors := 1
  mirrors := 2
  mirrorSectors := 1
  rootEntries := 16

/-- The cluster 256 is answered, whose link is read from the second mirror. -/
theorem not_chain_inTable_shortTable :
    ∃ vol w, (Volume.mount (Device.memory 512) Layout.shortTable).start
        (Layout.shortTable.oneLink 2048 256) = (.ok vol, w) ∧
      2 < Layout.shortTable.clusterLimit ∧ Layout.shortTable.clusterLimit = 256 ∧
      (∃ w', vol.chain 2 w = .ok [2, 256] w') ∧ ¬ vol.InTable w 2 := by
  have haccepted : Layout.shortTable.Accepted 512 2048 := ⟨by decide, rfl, by decide⟩
  obtain ⟨-, vol, w, hmount, hastray, hchain⟩ := Volume.exists_mount_astray haccepted
    (by decide) (by decide) (by decide) (by decide)
  exact ⟨vol, w, hmount, by decide, by decide, hchain (by decide), hastray⟩

end FatImage
