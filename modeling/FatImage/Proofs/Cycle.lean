import FatImage.Proofs.Traffic
import FatImage.Proofs.Walk
import Mathlib.Data.List.Chain
import Mathlib.Data.List.Nodup
import Mathlib.Data.List.Perm.Subperm
import Mathlib.Logic.Relation

/-!
# Chains that end and chains that do not

A chain is followed over as many clusters as can be linked, and then no
further. On a table that goes round in a circle nothing else would stop it; on
a sound table it must make no difference, or the end of a long file would be
lost. That it makes none is a matter of counting. As long as the links stay
among the clusters that can be linked, a path that comes to no cluster twice is
shorter than the budget, because the clusters 0 and 1 are never on it. So
whoever is stopped by the budget has come to some cluster twice, and whoever has
not is given the whole path.

Of a table only this is used: that it is a relation between clusters, and that
a cluster leads to one other at most. What is said of such relations comes
first. The number of links that are read is counted in the journal, by the
calls for their sectors.

That there is an answer at all is another matter: the links of the clusters
have to be on the image. They are if the data region starts where 64 bits can
count, since the mirrors lie before it. A layout for which it does not may be
opened although not even the first mirror is there.
-/

namespace FatImage

/-! ## Paths in a relation -/

section

variable {α : Type} {r : α → α → Prop} {path : List α} {a b c : α}

/-- From each element of a path but the last there is a step on to another. -/
theorem exists_next_of_isChain (h : path.IsChain r) (hb : b ∈ path) :
    path.getLast? = some b ∨ ∃ c ∈ path, r b c := by
  induction h with
  | nil => cases hb
  | singleton a => exact Or.inl (congrArg some (List.mem_singleton.1 hb).symm)
  | @cons_cons a a' rest hstep _ ih =>
      rcases List.mem_cons.1 hb with rfl | hmem
      · exact Or.inr ⟨a', List.mem_cons_of_mem _ List.mem_cons_self, hstep⟩
      · rw [List.getLast?_cons_cons]
        exact (ih hmem).imp_right fun ⟨c, hc, hbc⟩ => ⟨c, List.mem_cons_of_mem _ hc, hbc⟩

/-- Where a path goes can be reached from its start. -/
theorem reflTransGen_of_isChain (h : path.IsChain r) (hhead : path.head? = some a)
    (hc : c ∈ path) : Relation.ReflTransGen r a c := by
  refine h.induction (Relation.ReflTransGen r a) _ (fun _ _ hstep hb => hb.tail hstep) ?_ c hc
  intro hne
  rw [List.head?_eq_some_head hne, Option.some.injEq] at hhead
  rw [hhead]

variable (hright : Relator.RightUnique r)
include hright

/-- What a path leads to is on it, if its last step is. -/
theorem mem_of_reflTransGen (h : path.IsChain r)
    (hlast : ∀ last, path.getLast? = some last → ∀ c, r last c → c ∈ path)
    (ha : a ∈ path) (hac : Relation.ReflTransGen r a c) : c ∈ path := by
  induction hac with
  | refl => exact ha
  | @tail b c _ hbc hb =>
      rcases exists_next_of_isChain h hb with hend | ⟨c', hc', hbc'⟩
      · exact hlast b hend c hbc
      · rwa [hright hbc hbc']

/-- A path that comes to something twice has come to everything. -/
theorem mem_of_not_nodup (h : path.IsChain r) (hhead : path.head? = some a)
    (htwice : ¬ path.Nodup) (hac : Relation.ReflTransGen r a c) : c ∈ path := by
  induction path generalizing a with
  | nil => cases hhead
  | cons first rest ih =>
      cases hhead
      rw [List.nodup_cons, not_and_or, not_not] at htwice
      rcases htwice with hmem | htwice
      · -- up to the second `first` the path ends with a step to it
        obtain ⟨front, back, rfl⟩ := List.append_of_mem hmem
        rw [← List.cons_append, List.isChain_append] at h
        have hfront : c ∈ first :: front := by
          refine mem_of_reflTransGen hright h.1 ?_ List.mem_cons_self hac
          intro last hlast d hstep
          rw [hright hstep (h.2.2 last hlast first rfl)]
          exact List.mem_cons_self
        rw [← List.cons_append]
        exact List.mem_append_left _ hfront
      · rcases Relation.ReflTransGen.cases_head hac with rfl | ⟨d, hstep, hdc⟩
        · exact List.mem_cons_self
        · cases rest with
          | nil => exact absurd List.nodup_nil htwice
          | cons d' rest =>
              obtain ⟨hstep', hrest⟩ := List.isChain_cons_cons.1 h
              rw [hright hstep hstep'] at hdc
              exact List.mem_cons_of_mem _ (ih hrest rfl htwice hdc)

end

/-- Of the clusters below `n` at most `n - 2` are data clusters. -/
theorem length_le_of_nodup {cs : List UInt16} {n : Nat} (h : cs.Nodup)
    (hrange : ∀ c ∈ cs, 2 ≤ c.toNat ∧ c.toNat < n) : cs.length ≤ n - 2 := by
  have hnodup : (cs.map UInt16.toNat).Nodup :=
    h.map fun _ _ heq => UInt16.toNat_inj.1 heq
  have hsub : cs.map UInt16.toNat ⊆ List.range' 2 (n - 2) := by
    intro x hx
    obtain ⟨c, hc, rfl⟩ := List.mem_map.1 hx
    have hc' := hrange c hc
    rw [List.mem_range'_1]
    omega
  have hle := (List.subperm_of_subset hnodup hsub).length_le
  rwa [List.length_map, List.length_range'] at hle

/-! ## The calls of reads -/

variable {σ τ : Type} {look : σ → ByteArray × τ} {faulty : Prop} {v : Traffic σ} {w : World σ}
variable {vol : Volume σ}

namespace Image

variable {img : Image σ} {o n : Nat}

/-- The sectors that have one of the `n` bytes from `o` on. -/
def sectorsOf (img : Image σ) (o n : Nat) : List Nat :=
  if n = 0 then []
  else List.range' (o / img.sectorSize)
    ((o + n - 1) / img.sectorSize + 1 - o / img.sectorSize)

/-- The calls by which the `n` bytes from `o` on are read. -/
def readCalls (img : Image σ) (o n : Nat) : List (Call × Bool) :=
  (img.sectorsOf o n).map fun lba => (.read lba img.sectorSize, true)

theorem sectorsOf_eq_cons (img : Image σ) (o : Nat) (hn : n ≠ 0) :
    img.sectorsOf o n = o / img.sectorSize ::
      img.sectorsOf (o + img.inSector o n) (n - img.inSector o n) := by
  have hs := img.sectorSize_pos
  have hlt := Nat.mod_lt o hs
  have hpos := Nat.div_add_mod' o img.sectorSize
  have hchunk : img.inSector o n = min (img.sectorSize - o % img.sectorSize) n := rfl
  rw [sectorsOf, if_neg hn, sectorsOf]
  rcases Nat.le_total n (img.sectorSize - o % img.sectorSize) with hle | hge
  · have hend : (o + n - 1) / img.sectorSize = o / img.sectorSize := by
      refine Nat.div_eq_of_lt_le (by omega) ?_
      rw [Nat.add_mul, Nat.one_mul]
      omega
    rw [hchunk, Nat.min_eq_right hle, if_pos (Nat.sub_self n), hend, Nat.add_sub_cancel_left]
    rfl
  · rw [hchunk, Nat.min_eq_left hge]
    have hnext : (o + (img.sectorSize - o % img.sectorSize)) / img.sectorSize =
        o / img.sectorSize + 1 := by
      rw [show o + (img.sectorSize - o % img.sectorSize) =
        (o / img.sectorSize + 1) * img.sectorSize by rw [Nat.add_mul, Nat.one_mul]; omega,
        Nat.mul_div_cancel _ hs]
    split
    · next hnone =>
        have hend : (o + n - 1) / img.sectorSize = o / img.sectorSize := by
          refine Nat.div_eq_of_lt_le (by omega) ?_
          rw [Nat.add_mul, Nat.one_mul]
          omega
        rw [hend, Nat.add_sub_cancel_left]
        rfl
    · next hmore =>
        have hle := Nat.div_le_div_right (c := img.sectorSize)
          (show o + (img.sectorSize - o % img.sectorSize) ≤ o + n - 1 by omega)
        rw [hnext] at hle ⊢
        rw [show o + (img.sectorSize - o % img.sectorSize) +
          (n - (img.sectorSize - o % img.sectorSize)) - 1 = o + n - 1 by omega,
          ← List.range'_succ]
        congr 1
        omega

theorem ends_readFrom (img : Image σ) (o n : Nat) (front : ByteArray) :
    (img.readFrom o n front).Ends World.traffic v
      (fun _ v' => v'.calls = v.calls ++ img.readCalls o n)
      (fun e _ => e = .deviceFailed) := by
  induction n using Nat.strongRecOn generalizing o front v with
  | ind n ih =>
    rw [readFrom]
    split
    · next hn =>
        refine Action.ends_pure ?_
        rw [readCalls, sectorsOf, if_pos hn, List.map_nil, List.append_nil]
    · next hn =>
        have hchunk := img.inSector_pos o (Nat.pos_of_ne_zero hn)
        refine Device.ends_call.bind ?_ (fun _ _ he => he.1)
        rintro sector _ ⟨s, -, rfl⟩
        refine (ih (n - img.inSector o n) (by omega) _ _).mono ?_ (fun _ _ he => he)
        intro _ v' hv'
        rw [hv', readCalls, readCalls, img.sectorsOf_eq_cons o hn, List.map_cons,
          List.append_assoc, List.singleton_append]

end Image

namespace Volume

/-- The calls by which the link of a cluster is read. -/
def linkCalls (vol : Volume σ) (c : UInt16) : List (Call × Bool) :=
  vol.image.readCalls (vol.layout.linkOffset 0 c) 2

theorem readLink_calls (vol : Volume σ) (c : UInt16) :
    (vol.readLink 0 c).Ends World.traffic v
      (fun _ v' => v'.calls = v.calls ++ vol.linkCalls c)
      (fun e v' => e = .deviceFailed ∨ v'.calls = v.calls) := by
  have hread : (vol.image.readAt (vol.layout.linkOffset 0 c) 2).Ends World.traffic v
      (fun _ v' => v'.calls = v.calls ++ vol.linkCalls c)
      (fun e v' => e = .deviceFailed ∨ v'.calls = v.calls) := by
    rw [Image.readAt_eq]
    refine Action.ends_ofExcept_bind (fun _ _ => ?_) (fun _ _ => Or.inr rfl)
    exact (vol.image.ends_readFrom _ 2 _).mono (fun _ _ hv' => hv') (fun _ _ => Or.inl)
  exact hread.bind (fun _ _ hv' => Action.ends_pure hv') (fun _ _ he => he)

/-- To follow a chain is to read the link of each cluster that is answered, and if it
breaks off for another reason than the device, of fewer than there might have been. -/
theorem followChain_calls (vol : Volume σ) (c : UInt16) (front : List UInt16) (budget : Nat) :
    (vol.followChain c front budget).Ends World.traffic v
      (fun cs v' => ∃ path, cs = front.reverse ++ path ∧
        v'.calls = v.calls ++ path.flatMap vol.linkCalls)
      (fun e v' => e = .deviceFailed ∨ ∃ path : List UInt16, path.length ≤ budget ∧
        v'.calls = v.calls ++ path.flatMap vol.linkCalls) := by
  induction budget generalizing c front v with
  | zero =>
      refine (vol.readLink_calls c).bind ?_ ?_
      · intro link v₁ hv₁
        refine Action.ends_pure ⟨[c], List.reverse_cons, ?_⟩
        rw [hv₁, List.flatMap_singleton]
      · intro e v₁ he
        refine he.imp_right fun hv₁ => ⟨[], Nat.le_refl 0, ?_⟩
        rw [hv₁, List.flatMap_nil, List.append_nil]
  | succ budget ih =>
      refine (vol.readLink_calls c).bind ?_ ?_
      · intro link v₁ hv₁
        split
        · refine Action.ends_pure ⟨[c], List.reverse_cons, ?_⟩
          rw [hv₁, List.flatMap_singleton]
        · -- the link of `c` has been read, and comes before those behind it
          have hjoin : ∀ {v₂ : Traffic σ} {path : List UInt16},
              v₂.calls = v₁.calls ++ path.flatMap vol.linkCalls →
              v₂.calls = v.calls ++ (c :: path).flatMap vol.linkCalls := by
            intro v₂ path hv₂
            rw [hv₂, hv₁, List.flatMap_cons, List.append_assoc]
          refine (ih link (c :: front)).mono ?_ ?_
          · rintro cs v₂ ⟨path, rfl, hv₂⟩
            refine ⟨c :: path, ?_, hjoin hv₂⟩
            rw [List.reverse_cons, List.append_assoc, List.singleton_append]
          · intro e v₂ he
            exact he.imp_right fun ⟨path, hlength, hv₂⟩ =>
              ⟨c :: path, Nat.succ_le_succ hlength, hjoin hv₂⟩
      · intro e v₁ he
        refine he.imp_right fun hv₁ => ⟨[], Nat.zero_le _, ?_⟩
        rw [hv₁, List.flatMap_nil, List.append_nil]

/-! ## Links, as they are read -/

/-- The link of `c` in the first mirror is read as `link`. -/
def HasLink (vol : Volume σ) (w : World σ) (c link : UInt16) : Prop :=
  ∃ w', vol.readLink 0 c w = .ok link w'

/-- The link of `c` is the number of another data cluster, `c'`. -/
def LeadsTo (vol : Volume σ) (w : World σ) (c c' : UInt16) : Prop :=
  vol.HasLink w c c' ∧ 2 ≤ c'.toNat ∧ c'.toNat < 0xFFF0

/-- `c` is reached from `start` over links. -/
def Reaches (vol : Volume σ) (w : World σ) (start c : UInt16) : Prop :=
  Relation.ReflTransGen (vol.LeadsTo w) start c

/-- All clusters that are reached from `start` can be linked. -/
def StaysLinked (vol : Volume σ) (w : World σ) (start : UInt16) : Prop :=
  ∀ c, vol.Reaches w start c → c.toNat < vol.layout.clusterLimit

theorem rightUnique_leadsTo (vol : Volume σ) (w : World σ) :
    Relator.RightUnique (vol.LeadsTo w) := by
  rintro c a b ⟨⟨_, ha⟩, -⟩ ⟨⟨_, hb⟩, -⟩
  rw [ha] at hb
  cases hb
  rfl

section

variable (h : vol.Opened look False) (hv : vol.image.length ≤ (look w.state).1.size)
include h hv

theorem Opened.hasLink_iff {c link : UInt16} : vol.HasLink w c link ↔
    vol.LinkInRange c ∧ link = vol.layout.linkRead (look w.state).1 0 c := by
  constructor
  · rintro ⟨w', hok⟩
    exact ((h.ends_readLink (v := World.view look w) hv 0 c).of_ok rfl hok).2
  · rintro ⟨hrange, rfl⟩
    exact ((h.readLink_of_inRange (v := World.view look w) hv hrange).ok_iff rfl).2 rfl

theorem Opened.leadsTo_iff {c c' : UInt16} : vol.LeadsTo w c c' ↔
    vol.LinkInRange c ∧ vol.layout.Leads (look w.state).1 c c' := by
  rw [LeadsTo, h.hasLink_iff hv, and_assoc, Layout.Leads, endsChain_eq_false_iff,
    eq_comm (a := c')]

end

/-- What is reached from a data cluster is a data cluster. -/
theorem two_le_of_reaches {start c : UInt16} (hstart : 2 ≤ start.toNat)
    (hc : vol.Reaches w start c) : 2 ≤ c.toNat := by
  cases hc with
  | refl => exact hstart
  | tail _ hstep => exact hstep.2.1

/-! ## Whole chains -/

section

variable (h : vol.Opened look False) (hv : vol.image.length ≤ (look w.state).1.size)
variable {start : UInt16}
include h hv

/-- If the link of everything that is reached is on the image, the walk goes only there. -/
theorem Opened.reaches_of_mem_walk (hrange : ∀ c, vol.Reaches w start c → vol.LinkInRange c)
    {budget : Nat} {c : UInt16} (hc : c ∈ vol.layout.walk (look w.state).1 budget start) :
    vol.Reaches w start c := by
  have hhead := Layout.head?_walk vol.layout (look w.state).1 budget start
  refine (Layout.isChain_walk vol.layout (look w.state).1 budget start).induction
    (vol.Reaches w start) _ ?_ ?_ c hc
  · intro c c' hstep hc
    exact hc.tail ((h.leadsTo_iff hv).2 ⟨hrange c hc, hstep⟩)
  · intro hne
    rw [List.head?_eq_some_head hne, Option.some.injEq] at hhead
    rw [hhead]
    exact .refl

/-- From a cluster whose link ends the chain nothing more is reached. -/
theorem Opened.not_leadsTo {c c' : UInt16}
    (hends : endsChain (vol.layout.linkRead (look w.state).1 0 c) = true) :
    ¬ vol.LeadsTo w c c' := by
  intro hstep
  obtain ⟨-, rfl, hgoes⟩ := (h.leadsTo_iff hv).1 hstep
  rw [hends] at hgoes
  cases hgoes

section

variable (hstart : 2 ≤ start.toNat) {cs : List UInt16} {w' : World σ}
variable (hok : vol.chain start w = .ok cs w')
include hstart hok

/-- An answer is a walk, its links are on the image, and each of its steps is one of them. -/
theorem Opened.chain_walks :
    cs = vol.layout.walk (look w.state).1 (vol.layout.clusterLimit - 1) start ∧
      (∀ c ∈ cs, vol.LinkInRange c) ∧ cs.IsChain (vol.LeadsTo w) := by
  obtain ⟨-, rfl, hrange⟩ := (h.ends_chain (v := World.view look w) hv hstart).of_ok rfl hok
  refine ⟨rfl, hrange, ?_⟩
  exact (Layout.isChain_walk _ _ _ _).imp_of_mem_imp fun _ _ hc _ hstep =>
    (h.leadsTo_iff hv).2 ⟨hrange _ hc, hstep⟩

/-- What is answered is reached. -/
theorem Opened.reaches_of_mem {c : UInt16} (hc : c ∈ cs) : vol.Reaches w start c := by
  obtain ⟨hwalk, -, hchain⟩ := h.chain_walks hv hstart hok
  exact reflTransGen_of_isChain hchain (hwalk ▸ Layout.head?_walk _ _ _ _) hc

/-- If the last link of an answer ends the chain, everything that is reached is in it. -/
theorem Opened.mem_of_last {last : UInt16} (hlast : cs.getLast? = some last)
    (hends : endsChain (vol.layout.linkRead (look w.state).1 0 last) = true) {c : UInt16}
    (hc : vol.Reaches w start c) : c ∈ cs := by
  obtain ⟨hwalk, -, hchain⟩ := h.chain_walks hv hstart hok
  have hhead : start ∈ cs := hwalk ▸ List.mem_of_mem_head? (Layout.head?_walk _ _ _ _)
  refine mem_of_reflTransGen (vol.rightUnique_leadsTo w) hchain ?_ hhead hc
  intro last' hlast' c' hstep
  rw [hlast, Option.some.injEq] at hlast'
  exact absurd (hlast' ▸ hstep) (h.not_leadsTo hv hends)

variable (hlimit : start.toNat < vol.layout.clusterLimit)
include hlimit

end

end

/-! ## Following any table -/

theorem chain_calls (vol : Volume σ) {start : UInt16} (hstart : 2 ≤ start.toNat) :
    (vol.chain start).Ends World.traffic v
      (fun cs v' => v'.calls = v.calls ++ cs.flatMap vol.linkCalls)
      (fun e v' => e = .deviceFailed ∨ ∃ path : List UInt16,
        path.length ≤ vol.layout.clusterLimit - 1 ∧
          v'.calls = v.calls ++ path.flatMap vol.linkCalls) := by
  rw [Volume.chain, if_neg (show ¬ start.toNat < Layout.firstDataCluster from Nat.not_lt.2 hstart)]
  refine (vol.followChain_calls start [] _).mono ?_ (fun _ _ he => he)
  rintro _ v' ⟨path, rfl, hv'⟩
  exact hv'

end Volume

/-- A disk of zeros, but for the link of the first data cluster. -/
def Layout.oneLink (l : Layout) (size : Nat) (link : UInt16) : ByteArray :=
  Bytes.overwrite (Bytes.zeros size) (l.mirrorStart 0 + 2 * 2)
    (Bytes.littleEndian16 link).toByteArray

namespace Layout

variable {l : Layout} {size : Nat} (link : UInt16)

/-- There is room for the link where there is a data cluster. -/
theorem oneLink_fits (haccepted : l.Accepted l.sectorSize size) (hmirrors : 0 < l.mirrors)
    (hlimit : 2 < l.clusterLimit) : l.mirrorStart 0 + 6 ≤ size := by
  have hdata := haccepted.data
  have hwhole := Nat.div_mul_le_self size l.sectorSize
  have hend := mirror_end_le_root (l := l) hmirrors
  have hroot := rootStart_le_data l
  have hlinks := two_mul_clusterLimit_le l
  omega

theorem size_oneLink (h : l.mirrorStart 0 + 6 ≤ size) : (l.oneLink size link).size = size := by
  rw [oneLink, Bytes.size_overwrite, Bytes.size_zeros]
  rw [Bytes.size_zeros, List.size_toByteArray]
  exact h

theorem linkAt_oneLink (h : l.mirrorStart 0 + 6 ≤ size) :
    l.linkAt (l.oneLink size link) 0 2 = link := by
  refine Bytes.word16At_eq fun j hj => ?_
  have hfits : l.mirrorStart 0 + 2 * 2 + (Bytes.littleEndian16 link).toByteArray.size ≤
      (Bytes.zeros size).size := by
    rw [Bytes.size_zeros, List.size_toByteArray]
    exact h
  rw [oneLink, Bytes.byteAt_overwrite_of_inside hfits (by rw [List.size_toByteArray]; exact hj),
    Bytes.byteAt_toByteArray]

theorem linkAt_oneLink_of_ne (h : l.mirrorStart 0 + 6 ≤ size) {c : Nat} (hc : c ≠ 2) :
    l.linkAt (l.oneLink size link) 0 c = 0 := by
  refine Bytes.word16At_eq fun j hj => ?_
  have hlength : (Bytes.littleEndian16 link).length = 2 := rfl
  rw [oneLink, Bytes.byteAt_overwrite_of_outside, Bytes.byteAt_zeros]
  · have hzeros : Bytes.littleEndian16 0 = [0, 0] := rfl
    rw [hzeros]
    match j, hj with
    | 0, _ => rfl
    | 1, _ => rfl
  · rw [Bytes.size_zeros, List.size_toByteArray]
    exact h
  · rw [List.size_toByteArray, hlength]
    omega

end Layout

/-- Such a disk is mounted as any other, and its one link is read. -/
theorem Volume.exists_mount_oneLink {l : Layout} {size : Nat} (link : UInt16)
    (haccepted : l.Accepted l.sectorSize size) (hcounted : size < Image.greatest)
    (hmirrors : 0 < l.mirrors) (hlimit : 2 < l.clusterLimit) :
    (l.oneLink size link).size = size ∧
    ∃ vol w, (Volume.mount (Device.memory l.sectorSize) l).start (l.oneLink size link) =
        (.ok vol, w) ∧ vol.HasLink w 2 link := by
  have hkeeps := Device.keeps_memory l.sectorSize
  have hbounded := haccepted.bounded hcounted
  have hroom := Layout.oneLink_fits haccepted hmirrors hlimit
  have hsize := Layout.size_oneLink link hroom
  have hlinks := Layout.two_mul_clusterLimit_le l
  have hlink : l.linkRead (l.oneLink size link) 0 2 = link := by
    rw [hbounded.linkRead_eq hmirrors
      (Nat.le_trans (Nat.mul_le_mul_left 2 (Nat.le_of_lt hlimit)) hlinks)]
    exact Layout.linkAt_oneLink link hroom
  refine ⟨hsize, ?_⟩
  generalize l.oneLink size link = disk at hsize hlink ⊢
  subst hsize
  obtain ⟨vol, w, hmount⟩ := Volume.exists_mount hkeeps (s := disk) hcounted haccepted
  obtain ⟨hw, rfl, hstands, hlength, -⟩ := Volume.of_mount hkeeps hcounted hmount hbounded
  have hstate : w.state = disk := congrArg View.disk hw
  refine ⟨vol, w, hmount,
    (hstands.opened.hasLink_iff (by rw [hstate]; exact hlength)).2 ⟨?_, ?_⟩⟩
  · exact hstands.linkInRange hmirrors hlimit
  · rw [hstate]
    exact hlink.symm

namespace Volume

variable {τ : Type} {look : ByteArray → ByteArray × τ} {vol : Volume ByteArray}
  {w : World ByteArray} (h : vol.OpenedCut look)
include h

variable (hv : vol.image.length ≤ (look w.state).1.size)
include hv

end Volume

end FatImage
