import FatImage.Proofs.Mount

/-!
# Walks through the table

To follow a chain is to walk from link to link, over no more clusters than the
budget allows. Which clusters such a walk comes to is settled by the bytes of
the first mirror and by nothing else, so it is a function of them: `walk`. On a
device that keeps a disk the action answers just this list, as long as each of
its links can be read. No link is trusted, so one of them may lead to a number
whose own link is not on the image any more; there the action stops with the
error of the range, wherever else the walk might have gone.

The two shapes of a table that the rest is about come out of the recursion. A
row of clusters each of which is linked to the next is walked from end to end,
and every step of any walk goes to the link of the cluster before.
-/

namespace FatImage

variable {σ τ : Type} {look : σ → ByteArray × τ} {faulty : Prop} {v : View τ}
variable {vol : Volume σ} {l : Layout} {b : ByteArray}

theorem endsChain_eq_false_iff {link : UInt16} :
    endsChain link = false ↔ 2 ≤ link.toNat ∧ link.toNat < 0xFFF0 := by
  rw [endsChain, Bool.or_eq_false_iff, decide_eq_false_iff_not, decide_eq_false_iff_not,
    Nat.not_lt, Nat.not_le]
  exact Iff.rfl

namespace Volume

/-- The numbers of `n` clusters from `c` on. -/
def clustersFrom (c n : Nat) : List UInt16 :=
  (List.range n).map fun i => (c + i).toUInt16

theorem clustersFrom_succ (c n : Nat) :
    clustersFrom c (n + 1) = c.toUInt16 :: clustersFrom (c + 1) n := by
  rw [clustersFrom, clustersFrom, List.range_succ_eq_map, List.map_cons, List.map_map,
    Nat.add_zero]
  congr 1
  refine List.map_congr_left fun i _ => ?_
  rw [Function.comp_apply, Nat.succ_eq_add_one, Nat.add_right_comm, ← Nat.add_assoc]

end Volume

namespace Layout

/-- The link of `c` in mirror `i`, at the place that is computed for it. -/
def linkRead (l : Layout) (b : ByteArray) (i : Nat) (c : UInt16) : UInt16 :=
  Bytes.word16At b (l.linkOffset i c)

/-- A link that is in its mirror is read where it is. -/
theorem Bounded.linkRead_eq (h : l.Bounded) {i : Nat} (hi : i < l.mirrors) {c : UInt16}
    (hc : 2 * c.toNat ≤ l.mirrorBytes) : l.linkRead b i c = l.linkAt b i c.toNat := by
  rw [linkRead, h.linkOffset_eq hi hc]
  rfl

/-- The clusters that a walk from `c` on comes to if it goes over at most `budget`
further ones. -/
def walk (l : Layout) (b : ByteArray) : (budget : Nat) → UInt16 → List UInt16
  | 0, c => [c]
  | budget + 1, c =>
    if endsChain (l.linkRead b 0 c) then [c]
    else c :: l.walk b budget (l.linkRead b 0 c)

/-- The link of `c` is `c'`, and it does not end the chain. -/
def Leads (l : Layout) (b : ByteArray) (c c' : UInt16) : Prop :=
  l.linkRead b 0 c = c' ∧ endsChain c' = false

variable {budget : Nat} {c : UInt16}

theorem walk_of_ends (h : endsChain (l.linkRead b 0 c) = true) :
    l.walk b budget c = [c] := by
  cases budget with
  | zero => rfl
  | succ budget => rw [walk, if_pos h]

theorem walk_of_leads {c' : UInt16} (h : l.Leads b c c') :
    l.walk b (budget + 1) c = c :: l.walk b budget c' := by
  obtain ⟨rfl, hgoes⟩ := h
  rw [walk, if_neg (Bool.eq_false_iff.1 hgoes)]

theorem head?_walk (l : Layout) (b : ByteArray) (budget : Nat) (c : UInt16) :
    (l.walk b budget c).head? = some c := by
  cases budget with
  | zero => rfl
  | succ budget =>
      rw [walk]
      split <;> rfl

/-- A walk stops where its budget is spent or where the chain ends. -/
theorem walk_stops (l : Layout) (b : ByteArray) (budget : Nat) (c : UInt16) :
    (l.walk b budget c).length = budget + 1 ∨
      ∃ last, (l.walk b budget c).getLast? = some last ∧
        endsChain (l.linkRead b 0 last) = true := by
  induction budget generalizing c with
  | zero => exact Or.inl rfl
  | succ budget ih =>
      rw [walk]
      split
      · next hends => exact Or.inr ⟨c, rfl, hends⟩
      · refine (ih (l.linkRead b 0 c)).imp ?_ ?_
        · intro hlength
          rw [List.length_cons, hlength]
        · rintro ⟨last, hlast, hends⟩
          refine ⟨last, ?_, hends⟩
          rw [List.getLast?_cons, hlast]
          rfl

theorem isChain_walk (l : Layout) (b : ByteArray) (budget : Nat) (c : UInt16) :
    (l.walk b budget c).IsChain (l.Leads b) := by
  induction budget generalizing c with
  | zero => exact .singleton c
  | succ budget ih =>
      rw [walk]
      split
      · exact .singleton c
      · next hgoes =>
          have hrest := ih (l.linkRead b 0 c)
          have hhead := head?_walk l b budget (l.linkRead b 0 c)
          generalize l.walk b budget (l.linkRead b 0 c) = rest at hrest hhead ⊢
          cases rest with
          | nil => cases hhead
          | cons c' rest =>
              cases hhead
              exact .cons_cons ⟨rfl, Bool.eq_false_iff.2 hgoes⟩ hrest

/-- A walk depends on the links of the clusters that it comes to, and on no others. -/
theorem walk_congr {b' : ByteArray}
    (h : ∀ c' ∈ l.walk b budget c, l.linkRead b' 0 c' = l.linkRead b 0 c') :
    l.walk b' budget c = l.walk b budget c := by
  induction budget generalizing c with
  | zero => rfl
  | succ budget ih =>
      have hfirst := h c (List.mem_of_mem_head? (head?_walk l b _ c))
      rw [walk] at h ⊢
      rw [hfirst]
      rw [walk]
      split
      · rfl
      · next hgoes =>
          rw [if_neg hgoes] at h
          rw [ih fun c' hc' => h c' (List.mem_cons_of_mem _ hc')]

/-- Consecutive clusters, each linked to the next and the last to none, are walked
from the first to the last. -/
theorem walk_run {c n : Nat} (hc : 2 ≤ c) (hn : 0 < n) (hlimit : c + n ≤ 0xFFF0)
    (hbudget : n ≤ budget + 1)
    (hlinks : ∀ k < n, l.linkRead b 0 (c + k).toUInt16 =
      if k + 1 = n then endOfChain else (c + k + 1).toUInt16) :
    l.walk b budget c.toUInt16 = Volume.clustersFrom c n := by
  induction budget generalizing c n with
  | zero =>
      obtain rfl : n = 1 := by omega
      rfl
  | succ budget ih =>
      obtain ⟨m, rfl⟩ := Nat.exists_eq_succ_of_ne_zero (Nat.ne_of_gt hn)
      have hfirst := hlinks 0 hn
      rw [Nat.add_zero] at hfirst
      rw [walk, hfirst, Volume.clustersFrom_succ]
      rcases Nat.eq_zero_or_pos m with rfl | hm
      · rfl
      · have hnext : ((c + 1).toUInt16).toNat = c + 1 := toNat_toUInt16 (by omega)
        have hgoes : endsChain (c + 1).toUInt16 = false := by
          rw [endsChain_eq_false_iff, hnext]
          omega
        rw [if_neg (show ¬ 0 + 1 = m.succ by omega), hgoes, if_neg Bool.false_ne_true]
        congr 1
        refine ih (by omega) hm (by omega) (by omega) fun k hk => ?_
        have hlink := hlinks (k + 1) (by omega)
        rw [show c + 1 + k = c + (k + 1) by omega, hlink]
        exact if_congr Nat.succ_inj rfl rfl

end Layout

namespace Volume

/-! ## Reading links -/

/-- The link of the cluster in the first mirror is on the image. -/
def LinkInRange (vol : Volume σ) (c : UInt16) : Prop :=
  vol.image.checkRange (vol.layout.linkOffset 0 c) 2 = .ok ()

theorem Opened.ends_readLink (h : vol.Opened look faulty)
    (hv : vol.image.length ≤ v.disk.size) (i : Nat) (c : UInt16) :
    (vol.readLink i c).Ends (World.view look) v
      (fun link v' => v' = v ∧ vol.image.checkRange (vol.layout.linkOffset i c) 2 = .ok () ∧
        link = vol.layout.linkRead v.disk i c)
      (fun e v' => v' = v ∧ ((e = .deviceFailed ∧ faulty) ∨
        vol.image.checkRange (vol.layout.linkOffset i c) 2 = .error e)) := by
  have hraw : (vol.image.readAt (vol.layout.linkOffset i c) 2).Ends (World.view look) v
      (fun raw v' => v' = v ∧ vol.image.checkRange (vol.layout.linkOffset i c) 2 = .ok () ∧
        raw = Bytes.slice v.disk (vol.layout.linkOffset i c) 2)
      (fun e v' => v' = v ∧ ((e = .deviceFailed ∧ faulty) ∨
        vol.image.checkRange (vol.layout.linkOffset i c) 2 = .error e)) := by
    cases hcheck : vol.image.checkRange (vol.layout.linkOffset i c) 2 with
    | ok _ =>
        have hfit := Image.le_length_of_checkRange h.backed.counted hcheck
        exact Action.Ends.mono (h.backed.readAt hv hfit)
          (fun _ _ hv' => ⟨hv'.2, rfl, hv'.1⟩) (fun _ _ he => ⟨he.2, Or.inl he.1⟩)
    | error e =>
        rw [Image.readAt_eq, Image.ensureFits, hcheck]
        refine Action.ends_ofExcept_bind (fun _ hok => ?_) (fun e' he => ?_)
        · cases hok
        · cases he
          exact ⟨rfl, Or.inr rfl⟩
  refine hraw.bind ?_ (fun _ _ he => he)
  rintro raw _ ⟨rfl, hcheck, rfl⟩
  refine Action.ends_pure ⟨rfl, hcheck, ?_⟩
  rw [Layout.linkRead, Bytes.word16At, Bytes.word16At, Bytes.byteAt_slice (by omega),
    Bytes.byteAt_slice (by omega), Nat.add_zero]

theorem Opened.readLink_of_inRange (h : vol.Opened look faulty)
    (hv : vol.image.length ≤ v.disk.size) {i : Nat} {c : UInt16}
    (hrange : vol.image.checkRange (vol.layout.linkOffset i c) 2 = .ok ()) :
    (vol.readLink i c).Reads look faulty v (vol.layout.linkRead v.disk i c) := by
  refine (h.ends_readLink hv i c).mono (fun _ _ hv' => ⟨hv'.2.2, hv'.1⟩) ?_
  rintro e _ ⟨rfl, hfailed | herror⟩
  · exact ⟨hfailed, rfl⟩
  · rw [hrange] at herror
    cases herror

/-- Every cluster that can be linked has its link on the image. -/
theorem Stands.linkInRange (h : vol.Stands look faulty) (hmirrors : 0 < vol.layout.mirrors)
    {c : UInt16} (hc : c.toNat < vol.layout.clusterLimit) : vol.LinkInRange c := by
  have hend := Layout.mirror_end_le_root hmirrors
  have hroot := Layout.rootStart_le_data vol.layout
  have hlimit := Layout.two_mul_clusterLimit_le vol.layout
  have hdata := h.data
  refine Image.checkRange_eq_ok ?_
  rw [h.bounded.linkOffset_eq hmirrors (by omega), Layout.linkStart_eq]
  omega

/-! ## Following them -/

/-- The walk is answered if all its links are on the image, and otherwise the first
that is not is what stops it. -/
theorem Opened.followChain (h : vol.Opened look faulty)
    (hv : vol.image.length ≤ v.disk.size) (c : UInt16) (front : List UInt16) (budget : Nat) :
    (vol.followChain c front budget).Ends (World.view look) v
      (fun cs v' => v' = v ∧ cs = front.reverse ++ vol.layout.walk v.disk budget c ∧
        ∀ c' ∈ vol.layout.walk v.disk budget c, vol.LinkInRange c')
      (fun e v' => v' = v ∧ ((e = .deviceFailed ∧ faulty) ∨
        ∃ c' ∈ vol.layout.walk v.disk budget c,
          vol.image.checkRange (vol.layout.linkOffset 0 c') 2 = .error e)) := by
  induction budget generalizing c front with
  | zero =>
      refine (h.ends_readLink hv 0 c).bind ?_ ?_
      · rintro link _ ⟨rfl, hcheck, -⟩
        refine Action.ends_pure ⟨rfl, List.reverse_cons, fun c' hc' => ?_⟩
        rw [List.mem_singleton.1 hc']
        exact hcheck
      · rintro e _ ⟨rfl, hwhy⟩
        exact ⟨rfl, hwhy.imp_right fun herror => ⟨c, List.mem_singleton_self c, herror⟩⟩
  | succ budget ih =>
      refine (h.ends_readLink hv 0 c).bind ?_ ?_
      · rintro link _ ⟨rfl, hcheck, rfl⟩
        rw [Layout.walk]
        split
        · refine Action.ends_pure ⟨rfl, List.reverse_cons, fun c' hc' => ?_⟩
          rw [List.mem_singleton.1 hc']
          exact hcheck
        · refine (ih _ (c :: front)).mono ?_ ?_
          · rintro cs _ ⟨rfl, rfl, hrange⟩
            refine ⟨rfl, ?_, fun c' hc' => ?_⟩
            · rw [List.reverse_cons, List.append_assoc, List.singleton_append]
            · rcases List.mem_cons.1 hc' with rfl | hmem
              · exact hcheck
              · exact hrange c' hmem
          · rintro e _ ⟨rfl, hwhy⟩
            refine ⟨rfl, hwhy.imp_right ?_⟩
            rintro ⟨c', hc', herror⟩
            exact ⟨c', List.mem_cons_of_mem _ hc', herror⟩
      · rintro e _ ⟨rfl, hwhy⟩
        refine ⟨rfl, hwhy.imp_right fun herror => ⟨c, ?_, herror⟩⟩
        exact List.mem_of_mem_head? (Layout.head?_walk _ _ _ _)

/-- What `chain` answers from a data cluster on. -/
theorem Opened.ends_chain (h : vol.Opened look faulty)
    (hv : vol.image.length ≤ v.disk.size) {start : UInt16} (hstart : 2 ≤ start.toNat) :
    (vol.chain start).Ends (World.view look) v
      (fun cs v' => v' = v ∧
        cs = vol.layout.walk v.disk (vol.layout.clusterLimit - 1) start ∧
        ∀ c ∈ vol.layout.walk v.disk (vol.layout.clusterLimit - 1) start, vol.LinkInRange c)
      (fun e v' => v' = v ∧ ((e = .deviceFailed ∧ faulty) ∨
        ∃ c ∈ vol.layout.walk v.disk (vol.layout.clusterLimit - 1) start,
          vol.image.checkRange (vol.layout.linkOffset 0 c) 2 = .error e)) := by
  rw [Volume.chain, if_neg (show ¬ start.toNat < Layout.firstDataCluster from Nat.not_lt.2 hstart)]
  exact h.followChain hv start [] _

/-- If all links on the way are on the image, the chain is the walk. -/
theorem Opened.chain_walk (h : vol.Opened look faulty)
    (hv : vol.image.length ≤ v.disk.size) {start : UInt16} (hstart : 2 ≤ start.toNat)
    (hrange : ∀ c ∈ vol.layout.walk v.disk (vol.layout.clusterLimit - 1) start,
      vol.LinkInRange c) :
    (vol.chain start).Reads look faulty v
      (vol.layout.walk v.disk (vol.layout.clusterLimit - 1) start) := by
  refine (h.ends_chain hv hstart).mono ?_ ?_
  · rintro cs _ ⟨rfl, rfl, -⟩
    exact ⟨rfl, rfl⟩
  · rintro e _ ⟨rfl, hfailed | ⟨c, hc, herror⟩⟩
    · exact ⟨hfailed, rfl⟩
    · have hlink := hrange c hc
      rw [LinkInRange, herror] at hlink
      cases hlink

/-- Consecutive clusters, each linked to the next and the last to none, are what the
chain of the first consists of. -/
theorem Stands.chain_run (h : vol.Stands look faulty)
    (hv : vol.image.length ≤ v.disk.size) (hmirrors : 0 < vol.layout.mirrors) {c n : Nat}
    (hc : 2 ≤ c) (hn : 0 < n) (hlimit : c + n ≤ vol.layout.clusterLimit)
    (hlinks : ∀ k < n, vol.layout.linkAt v.disk 0 (c + k) =
      if k + 1 = n then endOfChain else (c + k + 1).toUInt16) :
    (vol.chain c.toUInt16).Reads look faulty v (clustersFrom c n) := by
  have hcounted := Layout.clusterLimit_le vol.layout
  have hroom := Layout.two_mul_clusterLimit_le vol.layout
  have hnat : (c.toUInt16).toNat = c := Layout.toNat_toUInt16 (by omega)
  have hwalk : vol.layout.walk v.disk (vol.layout.clusterLimit - 1) c.toUInt16 =
      clustersFrom c n :=
    Layout.walk_run hc hn (by omega) (by omega) fun k hk => by
      have hkth : ((c + k).toUInt16).toNat = c + k := Layout.toNat_toUInt16 (by omega)
      rw [h.bounded.linkRead_eq hmirrors (by omega), hkth]
      exact hlinks k hk
  rw [← hwalk]
  refine h.opened.chain_walk hv (by rwa [hnat]) fun c' hc' => ?_
  rw [hwalk] at hc'
  obtain ⟨i, hi, rfl⟩ := List.mem_map.1 hc'
  have hi' := List.mem_range.1 hi
  exact h.linkInRange hmirrors (by rw [Layout.toNat_toUInt16 (by omega)]; omega)

end Volume

end FatImage
