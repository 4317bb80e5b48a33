import FatImage.Proofs.Crash
import FatImage.Proofs.Traffic

/-!
# The trail of a write

A write of a byte range is several calls: a sector at the front that is read and
patched, the whole sectors in one piece, and a sector at the back. Any of them may
be refused, and the write ends there. What the calls so far have done to the disk
is found by doing them once more on a disk in memory (`replay`), and `Trail` says
what there is to say of them at any moment: the bytes are written from the front
on, up to the end of a sector, and nothing else is; no sector is written before
another that comes behind it, nor twice; and a sector that the range covers is not
read.

A trail is made of shorter ones. What follows the first `n` bytes is a write of its
own, on the disk that they have left, and as the first part ends where a sector
does, no sector belongs to both. `Trail.append` is this step, and the rest is the
recursion of the write.

That a write which fails is not complete needs no trail: it is torn, and that is
known of every device that keeps a disk.
-/

namespace FatImage

variable {σ τ φ : Type} {look : σ → ByteArray × τ} {faulty : Prop} {d : Device σ}

/-! ## Calls, done once more -/

/-- What is left of a disk by those of the calls that were carried out. -/
def replay (sectorSize : Nat) (b : ByteArray) (calls : List (Call × Bool)) : ByteArray :=
  calls.foldl (fun b c => if c.2 then ((Device.memory sectorSize).answer c.1 b).2 else b) b

/-- The sectors that a call asks to write. -/
def Call.sectorsWritten (sectorSize : Nat) : Call → List Nat
  | .write lba data => List.range' lba (data.size / sectorSize)
  | .count | .read _ _ | .flush => []

/-- The sectors that the calls ask to write, in their order. -/
def sectorsWritten (sectorSize : Nat) (calls : List (Call × Bool)) : List Nat :=
  calls.flatMap fun c => c.1.sectorsWritten sectorSize

/-- One of the `n` bytes from `o` on is in the sector. -/
def Touches (sectorSize o n sector : Nat) : Prop :=
  ∃ x, o ≤ x ∧ x < o + n ∧ x / sectorSize = sector

/-- All of the sector is among the `n` bytes from `o` on. -/
def Covers (sectorSize o n sector : Nat) : Prop :=
  o ≤ sector * sectorSize ∧ sector * sectorSize + sectorSize ≤ o + n

/-- The calls are those of a write of `d` at `o` on the disk `b`, as far as it has
come. -/
structure Trail (sectorSize : Nat) (b : ByteArray) (o : Nat) (d : ByteArray)
    (calls : List (Call × Bool)) : Prop where
  front : ∀ n, ∃ k ≤ d.size, (k = 0 ∨ k = d.size ∨ (o + k) % sectorSize = 0) ∧
    replay sectorSize b (calls.take n) = Bytes.overwrite b o (d.extract 0 k)
  ascending : (sectorsWritten sectorSize calls).Pairwise (· < ·)
  writes : ∀ sector ∈ sectorsWritten sectorSize calls, Touches sectorSize o d.size sector
  reads : ∀ {lba n done}, (Call.read lba n, done) ∈ calls →
    n = sectorSize ∧ Touches sectorSize o d.size lba ∧ ¬ Covers sectorSize o d.size lba

section

variable {s o n m sector lba : Nat} {b data part : ByteArray} {done : Bool}
variable {calls xs ys : List (Call × Bool)}

theorem replay_append : replay s b (xs ++ ys) = replay s (replay s b xs) ys :=
  List.foldl_append

theorem replay_read : replay s b ((.read lba n, done) :: calls) = replay s b calls := by
  have hstays : ((Device.memory s).answer (.read lba n) b).2 = b := by
    simp only [Device.memory]
    split <;> rfl
  rw [replay, List.foldl_cons, hstays, ite_self]
  rfl

theorem sectorsWritten_append :
    sectorsWritten s (xs ++ ys) = sectorsWritten s xs ++ sectorsWritten s ys :=
  List.flatMap_append

/-! ## Sectors of a range and of its parts -/

theorem Touches.of_front (h : Touches s o n sector) (hn : n ≤ m) : Touches s o m sector := by
  obtain ⟨x, hle, hlt, hx⟩ := h
  exact ⟨x, hle, by omega, hx⟩

theorem Touches.of_back (h : Touches s (o + n) (m - n) sector) (hn : n ≤ m) :
    Touches s o m sector := by
  obtain ⟨x, hle, hlt, hx⟩ := h
  exact ⟨x, by omega, by omega, hx⟩

/-- If a range ends where a sector does, its sectors end in it. -/
theorem Touches.end_le (hs : 0 < s) (h : Touches s o n sector) (hend : (o + n) % s = 0) :
    sector * s + s ≤ o + n := by
  obtain ⟨x, -, hx, rfl⟩ := h
  have hwhole := Nat.div_mul_cancel (Nat.dvd_of_mod_eq_zero hend)
  have hquot : x / s < (o + n) / s := by
    rw [Nat.div_lt_iff_lt_mul hs, hwhole]
    exact hx
  have hmul := Nat.mul_le_mul_right s (show x / s + 1 ≤ (o + n) / s from hquot)
  rw [Nat.add_mul, Nat.one_mul] at hmul
  omega

/-- If it starts where a sector does, its sectors start in it. -/
theorem Touches.le_start (h : Touches s o n sector) (hstart : o % s = 0) : o ≤ sector * s := by
  obtain ⟨x, hle, -, rfl⟩ := h
  have hwhole := Nat.div_mul_cancel (Nat.dvd_of_mod_eq_zero hstart)
  have hmul := Nat.mul_le_mul_right s (Nat.div_le_div_right (c := s) hle)
  omega

theorem Touches.lt_of_back (h : Touches s (o + n) (m - n) sector) : n < m := by
  obtain ⟨x, hle, hlt, -⟩ := h
  omega

section

variable (hs : 0 < s) (hn : n ≤ m) (hend : n < m → (o + n) % s = 0)
include hs hend

/-- Two parts that meet where a sector ends have no sector in common. -/
theorem Touches.lt_of_parts {sector' : Nat} (h : Touches s o n sector)
    (h' : Touches s (o + n) (m - n) sector') : sector < sector' := by
  have hmeet := hend h'.lt_of_back
  have hle := h.end_le hs hmeet
  have hge := h'.le_start hmeet
  exact Nat.lt_of_mul_lt_mul_right (a := s) (by omega)

include hn

theorem Covers.of_front (h : Covers s o m sector) (ht : Touches s o n sector) :
    Covers s o n sector := by
  rcases Nat.lt_or_eq_of_le hn with hlt | rfl
  · exact ⟨h.1, ht.end_le hs (hend hlt)⟩
  · exact h

omit hs in
theorem Covers.of_back (h : Covers s o m sector) (ht : Touches s (o + n) (m - n) sector) :
    Covers s (o + n) (m - n) sector := by
  have hle := h.2
  exact ⟨ht.le_start (hend ht.lt_of_back), by omega⟩

end

/-! ## Trails -/

theorem trail_nil : Trail s b o data [] where
  front n := by
    refine ⟨0, Nat.zero_le _, Or.inl rfl, ?_⟩
    rw [Bytes.overwrite_of_size_eq_zero (Bytes.size_extract_zero (Nat.zero_le _)),
      List.take_nil]
    rfl
  ascending := List.Pairwise.nil
  writes _ hmem := nomatch hmem
  reads hmem := nomatch hmem

/-- A read does nothing to the disk, so it may come before a trail. -/
theorem Trail.after_read (h : Trail s b o data calls) (ht : Touches s o data.size lba)
    (hc : ¬ Covers s o data.size lba) : Trail s b o data ((.read lba s, done) :: calls) where
  front n := by
    cases n with
    | zero => exact h.front 0
    | succ n =>
        rw [List.take_succ_cons, replay_read]
        exact h.front n
  ascending := h.ascending
  writes := h.writes
  reads hmem := by
    rcases List.mem_cons.1 hmem with heq | hmem
    · cases heq
      exact ⟨rfl, ht, hc⟩
    · exact h.reads hmem

/-- One write that is carried out or not. -/
theorem trail_write (hanswer : (Device.memory s).answer (.write lba part) b =
      (.ok (), Bytes.overwrite b o data))
    (ht : ∀ sector ∈ List.range' lba (part.size / s), Touches s o data.size sector) :
    Trail s b o data [(.write lba part, done)] where
  front n := by
    have hnone : replay s b [] = Bytes.overwrite b o (data.extract 0 0) :=
      (Bytes.overwrite_of_size_eq_zero (Bytes.size_extract_zero (Nat.zero_le _))).symm
    cases n with
    | zero => exact ⟨0, Nat.zero_le _, Or.inl rfl, hnone⟩
    | succ n =>
        rw [List.take_succ_cons, List.take_nil]
        cases done with
        | false => exact ⟨0, Nat.zero_le _, Or.inl rfl, hnone⟩
        | true =>
            refine ⟨data.size, Nat.le_refl _, Or.inr (Or.inl rfl), ?_⟩
            rw [ByteArray.extract_zero_size]
            exact congrArg Prod.snd hanswer
  ascending := by
    rw [sectorsWritten, List.flatMap_singleton]
    exact List.pairwise_lt_range'
  writes sector hmem := by
    rw [sectorsWritten, List.flatMap_singleton] at hmem
    exact ht sector hmem
  reads hmem := by
    cases List.mem_singleton.1 hmem

section

variable (hs : 0 < s) (hn : n ≤ data.size) (hend : n < data.size → (o + n) % s = 0)
include hs hn hend

/-- A write that has not come further than the first `n` bytes. -/
theorem Trail.of_front (h : Trail s b o (data.extract 0 n) xs) : Trail s b o data xs := by
  have hsize := Bytes.size_extract_zero hn
  refine ⟨fun i => ?_, h.ascending, fun sector hmem => ?_, fun hmem => ?_⟩
  · obtain ⟨k, hk, hsector, hreplay⟩ := h.front i
    rw [hsize] at hk hsector
    rw [ByteArray.extract_extract, Nat.zero_add, Nat.zero_add, Nat.min_eq_left hk] at hreplay
    refine ⟨k, by omega, ?_, hreplay⟩
    rcases hsector with h0 | rfl | hsector
    · exact Or.inl h0
    · rcases Nat.lt_or_eq_of_le hn with hlt | rfl
      · exact Or.inr (Or.inr (hend hlt))
      · exact Or.inr (Or.inl rfl)
    · exact Or.inr (Or.inr hsector)
  · have ht := h.writes sector hmem
    rw [hsize] at ht
    exact ht.of_front hn
  · obtain ⟨hbytes, ht, hc⟩ := h.reads hmem
    rw [hsize] at ht hc
    exact ⟨hbytes, ht.of_front hn, fun hcovers => hc (hcovers.of_front hs hn hend ht)⟩

/-- A write that goes on behind its first `n` bytes. -/
theorem Trail.append (h : Trail s b o (data.extract 0 n) xs)
    (hwhole : replay s b xs = Bytes.overwrite b o (data.extract 0 n))
    (h' : Trail s (replay s b xs) (o + n) (data.extract n data.size) ys)
    (hb : o + data.size ≤ b.size) : Trail s b o data (xs ++ ys) := by
  have hsize := Bytes.size_extract_zero hn
  have hsize' : (data.extract n data.size).size = data.size - n := by
    rw [ByteArray.size_extract, Nat.min_self]
  have hfront := h.of_front hs hn hend
  have hback := fun sector hmem => hsize' ▸ h'.writes sector hmem
  refine ⟨fun i => ?_, ?_, fun sector hmem => ?_, fun hmem => ?_⟩
  · rcases Nat.le_total i xs.length with hle | hge
    · rw [List.take_append_of_le_length hle]
      exact hfront.front i
    · rw [List.take_append, List.take_of_length_le hge, replay_append]
      obtain ⟨k, hk, hsector, hreplay⟩ := h'.front (i - xs.length)
      rw [hsize'] at hk hsector
      refine ⟨n + k, by omega, ?_, ?_⟩
      · rcases hsector with rfl | rfl | hsector
        · rcases Nat.lt_or_eq_of_le hn with hlt | rfl
          · exact Or.inr (Or.inr (hend hlt))
          · exact Or.inr (Or.inl rfl)
        · exact Or.inr (Or.inl (by omega))
        · rw [Nat.add_assoc] at hsector
          exact Or.inr (Or.inr hsector)
      · rw [hreplay, hwhole, ByteArray.extract_extract, Nat.add_zero,
          Nat.min_eq_left (by omega)]
        exact Bytes.overwrite_overwrite (by omega) (by omega) hb
  · rw [sectorsWritten_append, List.pairwise_append]
    refine ⟨h.ascending, h'.ascending, fun sector hmem sector' hmem' => ?_⟩
    have ht := h.writes sector hmem
    rw [hsize] at ht
    exact ht.lt_of_parts hs hend (hback sector' hmem')
  · rw [sectorsWritten_append, List.mem_append] at hmem
    rcases hmem with hmem | hmem
    · exact hfront.writes sector hmem
    · exact (hback sector hmem).of_back hn
  · rcases List.mem_append.1 hmem with hmem | hmem
    · exact hfront.reads hmem
    · obtain ⟨hbytes, ht, hc⟩ := h'.reads hmem
      rw [hsize'] at ht hc
      exact ⟨hbytes, ht.of_back hn, fun hcovers => hc (hcovers.of_back hn hend ht)⟩

end

end

/-! ## Actions that leave a trail -/

/-- From `v` to `v'` there were these calls, and the disk is what they leave. -/
structure Traffic.Went (look : σ → ByteArray × τ) (sectorSize : Nat) (v v' : Traffic σ)
    (calls : List (Call × Bool)) : Prop where
  asked : v'.calls = v.calls ++ calls
  disk : (look v'.state).1 = replay sectorSize (look v.state).1 calls

/-- The calls from `v` to `v'` are the trail of a write. -/
def Traffic.Trailed (look : σ → ByteArray × τ) (sectorSize o : Nat) (data : ByteArray)
    (v v' : Traffic σ) : Prop :=
  ∃ calls, Went look sectorSize v v' calls ∧
    Trail sectorSize (look v.state).1 o data calls

/-- The action leaves the trail of a write, which is complete if it succeeds. -/
def Action.Trails (x : Action σ VolumeError Unit) (look : σ → ByteArray × τ)
    (sectorSize : Nat) (v : Traffic σ) (o : Nat) (data : ByteArray) : Prop :=
  x.Ends World.traffic v
    (fun _ v' => Traffic.Trailed look sectorSize o data v v' ∧
      (look v'.state).1 = Bytes.overwrite (look v.state).1 o data)
    (fun _ v' => Traffic.Trailed look sectorSize o data v v')

theorem Traffic.Went.refl (look : σ → ByteArray × τ) (sectorSize : Nat) (v : Traffic σ) :
    Went look sectorSize v v [] :=
  ⟨(List.append_nil _).symm, rfl⟩

theorem Traffic.Went.trans {sectorSize : Nat} {v v' v'' : Traffic σ}
    {xs ys : List (Call × Bool)} (h : Went look sectorSize v v' xs)
    (h' : Went look sectorSize v' v'' ys) : Went look sectorSize v v'' (xs ++ ys) where
  asked := by rw [h'.asked, h.asked, List.append_assoc]
  disk := by rw [h'.disk, h.disk, replay_append]

/-- A call that is carried out is answered as on a disk in memory. -/
theorem Device.Keeps.ends_went (h : d.Keeps look faulty) {c : Call} {v : Traffic σ} :
    (d.perform c).Ends World.traffic v
      (fun a v' => Traffic.Went look d.sectorSize v v' [(c, true)] ∧
        (memory d.sectorSize).answer c (look v.state).1 = (.ok a, (look v'.state).1))
      (fun _ v' => Traffic.Went look d.sectorSize v v' [(c, false)]) := by
  refine ends_call.mono ?_ ?_
  · rintro a _ ⟨s, hd, rfl⟩
    have hanswer := (h.done hd).1
    exact ⟨⟨rfl, (congrArg Prod.snd hanswer).symm⟩, hanswer⟩
  · rintro e _ ⟨-, why, s, hd, rfl⟩
    exact ⟨rfl, congrArg Prod.fst (h.refused hd).1⟩

/-- Two writes of adjoining ranges, the first of which ends a sector unless it is
all there is to write. -/
theorem Action.Trails.append {x rest : Action σ VolumeError Unit} {sectorSize o n : Nat}
    {v : Traffic σ} {data : ByteArray} (hs : 0 < sectorSize)
    (hx : x.Trails look sectorSize v o (data.extract 0 n))
    (hrest : ∀ v' : Traffic σ,
      (look v'.state).1 = Bytes.overwrite (look v.state).1 o (data.extract 0 n) →
      rest.Trails look sectorSize v' (o + n) (data.extract n data.size))
    (hb : o + data.size ≤ (look v.state).1.size) (hn : n ≤ data.size)
    (hend : n < data.size → (o + n) % sectorSize = 0) :
    (x >>= fun _ => rest).Trails look sectorSize v o data := by
  refine Ends.bind hx ?_ ?_
  · rintro _ v₁ ⟨⟨xs, hwent, htrail⟩, hdisk⟩
    have hwhole : replay sectorSize (look v.state).1 xs =
        Bytes.overwrite (look v.state).1 o (data.extract 0 n) := hwent.disk.symm.trans hdisk
    have hjoin : ∀ v₂, Traffic.Trailed look sectorSize (o + n) (data.extract n data.size) v₁ v₂ →
        Traffic.Trailed look sectorSize o data v v₂ := by
      rintro v₂ ⟨ys, hwent', htrail'⟩
      rw [hwent.disk] at htrail'
      exact ⟨xs ++ ys, hwent.trans hwent', htrail.append hs hn hend hwhole htrail' hb⟩
    refine Ends.mono (hrest v₁ hdisk) ?_ (fun _ v₂ h => hjoin v₂ h)
    rintro _ v₂ ⟨htrailed, hdisk'⟩
    refine ⟨hjoin v₂ htrailed, ?_⟩
    rw [hdisk', hdisk, Bytes.overwrite_overwrite hn (Nat.le_refl _) hb,
      ByteArray.extract_zero_size]
  · rintro _ v₁ ⟨xs, hwent, htrail⟩
    exact ⟨xs, hwent, htrail.of_front hs hn hend⟩

namespace Image

variable {img : Image σ} {v : Traffic σ} {pos n : Nat} {data : ByteArray}

/-- One write that changes the disk as the bytes of a range do. -/
theorem Backed.trails_writeSectors (h : img.Backed look faulty) {lba : Nat} {part : ByteArray}
    (hanswer : (Device.memory img.sectorSize).answer (.write lba part) (look v.state).1 =
      (.ok (), Bytes.overwrite (look v.state).1 pos data))
    (ht : ∀ sector ∈ List.range' lba (part.size / img.sectorSize),
      Touches img.sectorSize pos data.size sector) :
    (img.writeSectors lba part).Trails look img.sectorSize v pos data := by
  have hends := h.keeps.ends_went (c := .write lba part) (v := v)
  rw [h.sector] at hends
  refine hends.mono ?_ (fun _ _ hwent => ⟨_, hwent, trail_write hanswer ht⟩)
  rintro _ v' ⟨hwent, hdone⟩
  rw [hanswer, Prod.mk.injEq] at hdone
  exact ⟨⟨_, hwent, trail_write hanswer ht⟩, hdone.2.symm⟩

theorem Backed.trails_writeWhole (h : img.Backed look faulty)
    (hv : pos + data.size ≤ (look v.state).1.size) (hpos : pos % img.sectorSize = 0)
    (hn : n % img.sectorSize = 0) (hle : n ≤ data.size) :
    (img.writeSectors (pos / img.sectorSize) (data.extract 0 n)).Trails look
      img.sectorSize v pos (data.extract 0 n) := by
  have hs := img.sectorSize_pos
  have hsize := Bytes.size_extract_zero hle
  refine h.trails_writeSectors (memory_writeWhole hv hpos hn hle) ?_
  intro sector hmem
  rw [hsize, List.mem_range'_1] at hmem
  rw [hsize]
  -- the first byte of the sector is one of the range
  have hstart := Nat.div_mul_cancel (Nat.dvd_of_mod_eq_zero hpos)
  have hstop := Nat.div_mul_cancel (Nat.dvd_of_mod_eq_zero hn)
  have hlow := Nat.mul_le_mul_right img.sectorSize hmem.1
  have hhigh := Nat.mul_le_mul_right img.sectorSize (show sector + 1 ≤ _ from hmem.2)
  rw [Nat.add_mul, Nat.add_mul, hstart, hstop, Nat.one_mul] at hhigh
  exact ⟨sector * img.sectorSize, by omega, by omega, Nat.mul_div_cancel _ hs⟩

/-- The sector of `pos` is touched by what is written from there on. -/
theorem touches_pos (img : Image σ) (pos : Nat) (hn : 0 < n) :
    Touches img.sectorSize pos n (pos / img.sectorSize) :=
  ⟨pos, Nat.le_refl _, by omega, rfl⟩

theorem Backed.trails_writePatch (h : img.Backed look faulty)
    (hsector : pos / img.sectorSize * img.sectorSize + img.sectorSize ≤
      (look v.state).1.size)
    (hn0 : 0 < n) (hle : n ≤ data.size) (hin : pos % img.sectorSize + n ≤ img.sectorSize) :
    (img.writeSectors (pos / img.sectorSize) (img.patched (look v.state).1 pos n data)).Trails
      look img.sectorSize v pos (data.extract 0 n) := by
  refine h.trails_writeSectors (memory_writePatch hsector hle hin) ?_
  intro sector hmem
  rw [size_patched hsector hle hin, Nat.div_self img.sectorSize_pos, List.mem_range'_1] at hmem
  rw [Bytes.size_extract_zero hle, show sector = pos / img.sectorSize by omega]
  exact img.touches_pos pos hn0

/-- A sector that is only in part written to is read first. -/
theorem Backed.trails_readSector (h : img.Backed look faulty) {lba : Nat}
    {rest : ByteArray → Action σ VolumeError Unit}
    (ht : Touches img.sectorSize pos data.size lba)
    (hc : ¬ Covers img.sectorSize pos data.size lba)
    (hrest : ∀ v' : Traffic σ, (look v'.state).1 = (look v.state).1 →
      (rest (Bytes.slice (look v'.state).1 (lba * img.sectorSize) img.sectorSize)).Trails
        look img.sectorSize v' pos data) :
    (img.readSector lba >>= rest).Trails look img.sectorSize v pos data := by
  have hread := h.keeps.ends_went (c := .read lba img.sectorSize) (v := v)
  rw [h.sector] at hread
  refine hread.bind ?_ ?_
  · rintro sector v₁ ⟨hwent, hanswer⟩
    obtain ⟨-, rfl, hdisk⟩ := Device.memory_read_eq_ok_iff.1 hanswer
    have hjoin : ∀ v₂, Traffic.Trailed look img.sectorSize pos data v₁ v₂ →
        Traffic.Trailed look img.sectorSize pos data v v₂ := by
      rintro v₂ ⟨calls, hwent', htrail⟩
      rw [hdisk] at htrail
      exact ⟨_, hwent.trans hwent', htrail.after_read ht hc⟩
    have hrest₁ := hrest v₁ hdisk
    rw [hdisk] at hrest₁
    refine Action.Ends.mono hrest₁ ?_ (fun _ v₂ h₂ => hjoin v₂ h₂)
    rintro _ v₂ ⟨htrailed, hdisk'⟩
    exact ⟨hjoin v₂ htrailed, by rw [hdisk', hdisk]⟩
  · intro _ v₁ hwent
    exact ⟨_, hwent, trail_nil.after_read ht hc⟩

theorem Backed.trails_writeFrom (h : img.Backed look faulty)
    (hv : img.length ≤ (look v.state).1.size) (hfit : pos + data.size ≤ img.length) :
    (img.writeFrom pos data).Trails look img.sectorSize v pos data := by
  have hs := img.sectorSize_pos
  induction pos, data using img.writeFrom_induct generalizing v with
  | empty pos data hempty =>
      rw [writeFrom_of_empty pos hempty]
      refine Action.ends_pure ⟨⟨[], .refl look _ v, trail_nil⟩, ?_⟩
      rw [Bytes.overwrite_of_size_eq_zero hempty]
  | whole pos data n hfront ih =>
      have hle := hfront.le
      have hsize := Bytes.size_extract_zero hle
      have hrest := Bytes.size_extract_rest data n
      rw [hfront.writeFrom_eq]
      refine Action.Trails.append hs
        (h.trails_writeWhole (by omega) hfront.start hfront.stop hle) (fun v₁ hv₁ => ?_)
        (by omega) hle (fun _ => hfront.ends)
      refine ih ?_ (by omega)
      rw [hv₁, Bytes.size_overwrite (by omega)]
      exact hv
  | part pos data n hfront ih =>
      have hn := hfront.nonempty
      have hle := hfront.le
      have hinside := hfront.inside
      have hsize := Bytes.size_extract_zero hle
      have hrest := Bytes.size_extract_rest data n
      have hsector := sector_le_length h.whole (show pos < img.length by omega)
      have hpos := Nat.div_add_mod' pos img.sectorSize
      have hnot : ¬ Covers img.sectorSize pos data.size (pos / img.sectorSize) := by
        rintro ⟨hstart, hstop⟩
        exact hfront.not_whole ⟨by omega, by omega⟩
      rw [hfront.writeFrom_eq]
      refine h.trails_readSector (img.touches_pos pos (by omega)) hnot ?_
      intro v₁ hdisk
      rw [← hdisk] at hv
      refine Action.Trails.append hs
        (h.trails_writePatch (by omega) (by omega) hle hinside) (fun v₂ hv₂ => ?_)
        (by omega) hle hfront.ends
      refine ih ?_ (by omega)
      rw [hv₂, Bytes.size_overwrite (by omega)]
      exact hv

theorem Backed.trails_writeAt (h : img.Backed look faulty)
    (hv : img.length ≤ (look v.state).1.size) (hfit : pos + data.size ≤ img.length) :
    (img.writeAt pos data).Trails look img.sectorSize v pos data := by
  rw [writeAt_eq, ensureFits, checkRange_eq_ok hfit]
  exact h.trails_writeFrom hv hfit

/-! ## Disks that fail -/

/-- Wherever bytes are written or zeroed next, that succeeds, or the device fails and a
front of the range is changed; and what a write has asked for is its trail. -/
structure LeavesFront (img : Image (ByteArray × φ)) (w : World (ByteArray × φ)) : Prop where
  write : ∀ o data, o + data.size ≤ img.length → ∃ r w' calls,
    (img.writeAt o data).outcome w = (r, w') ∧
    w'.calls = w.calls ++ calls ∧ w'.state.1 = replay img.sectorSize w.state.1 calls ∧
    Trail img.sectorSize w.state.1 o data calls ∧
    (r = .ok () ∧ w'.state.1 = Bytes.overwrite w.state.1 o data ∨
      r = .error .deviceFailed ∧ Bytes.Torn img.sectorSize w.state.1 o data w'.state.1)
  zero : ∀ o n, o + n ≤ img.length → ∃ r w', (img.zeroRange o n).outcome w = (r, w') ∧
    (r = .ok () ∧ w'.state.1 = Bytes.overwrite w.state.1 o (Bytes.zeros n) ∨
      r = .error .deviceFailed ∧ ∃ k < n,
        w'.state.1 = Bytes.overwrite w.state.1 o (Bytes.zeros k))

theorem Backed.leavesFront {img : Image (ByteArray × φ)} {w : World (ByteArray × φ)}
    (h : img.Backed (fun s => (s.1, ())) faulty) (hv : img.length ≤ w.state.1.size) :
    img.LeavesFront w where
  write o data hfit := by
    have htrails := h.trails_writeAt (v := w.traffic) hv hfit
    have hwrites := h.writeAt (v := World.view (fun s : ByteArray × φ => (s.1, ())) w) hv hfit
    cases hw : img.writeAt o data w with
    | ok _ w' =>
        obtain ⟨⟨calls, hwent, htrail⟩, hdisk⟩ := htrails.of_ok rfl hw
        exact ⟨_, w', calls, Action.outcome_eq_ok.2 hw, hwent.asked, hwent.disk, htrail,
          Or.inl ⟨rfl, hdisk⟩⟩
    | error e w' =>
        obtain ⟨calls, hwent, htrail⟩ := htrails.of_error rfl hw
        obtain ⟨⟨rfl, -⟩, b, htorn, hseen⟩ := hwrites.of_error rfl hw
        have hdisk : w'.state.1 = b := congrArg View.disk hseen
        rw [← hdisk] at htorn
        exact ⟨_, w', calls, Action.outcome_eq_error.2 hw, hwent.asked, hwent.disk, htrail,
          Or.inr ⟨rfl, htorn⟩⟩
  zero o n hfit := by
    have hzeros := h.zeroRange (v := World.view (fun s : ByteArray × φ => (s.1, ())) w) hv hfit
    cases hw : img.zeroRange o n w with
    | ok _ w' =>
        exact ⟨_, w', Action.outcome_eq_ok.2 hw,
          Or.inl ⟨rfl, congrArg View.disk (hzeros.of_ok rfl hw)⟩⟩
    | error e w' =>
        obtain ⟨⟨rfl, -⟩, k, hk, hseen⟩ := hzeros.of_error rfl hw
        exact ⟨_, w', Action.outcome_eq_error.2 hw,
          Or.inr ⟨rfl, k, hk, congrArg View.disk hseen⟩⟩

end Image

/-- On a disk in memory, whatever calls of it are refused, a write or a zeroing that fails
has changed a front of its range and nothing else. -/
theorem failed_write_leaves_front {plan : Device.FaultPlan φ}
    (honest : ∀ m, plan.claims m = none) {sectorSize : Nat} {disk : ByteArray} {m : φ}
    {img : Image (ByteArray × φ)} {w₀ w : World (ByteArray × φ)}
    (hcounted : disk.size < Image.greatest)
    (hopened : (Image.ofDevice ((Device.memory sectorSize).refusing plan) sectorSize).start
      (disk, m) = (.ok img, w₀)) (hsize : w.state.1.size = disk.size) : img.LeavesFront w := by
  have hkeeps := (Device.keeps_memory sectorSize).refusing honest
  obtain ⟨-, hbacked, -, hlength, -⟩ := (Image.ends_ofDevice hkeeps
    (v := World.view (fun s : ByteArray × φ => (s.1, ())) ⟨(disk, m), #[]⟩) hcounted).of_ok rfl
    (Action.start_eq_ok.1 hopened)
  refine hbacked.leavesFront ?_
  rw [hlength, hsize]
  exact Nat.div_mul_le_self _ _

theorem Image.exists_ofDevice {s s' : σ} {sectors sectorSize : Nat}
    (hcount : d.answer .count s = (.ok sectors, s'))
    (hsize : leastSectorSize ≤ sectorSize ∧ sectorSize = d.sectorSize) :
    ∃ img w, (Image.ofDevice d sectorSize).start s = (.ok img, w) ∧ w.state = s' := by
  have hends : (Image.ofDevice d sectorSize).Ends World.traffic ⟨s, []⟩
      (fun _ v' => v'.state = s') (fun _ _ => False) := by
    rw [Image.ofDevice, dif_pos hsize]
    refine Device.ends_call.bind ?_ ?_
    · rintro a _ ⟨s₁, hd, rfl⟩
      rw [hcount] at hd
      cases hd
      exact Action.ends_pure rfl
    · rintro e _ ⟨-, why, s₁, hd, -⟩
      rw [hcount] at hd
      cases hd
  obtain ⟨img, w, hok, hw⟩ := hends.exists_ok (w := ⟨s, #[]⟩) rfl
  exact ⟨img, w, Action.start_eq_ok.2 hok, hw⟩

/-- A disk of two sectors that refuses its fifth call: of a write that begins in the first
sector and ends in the second, this is the last. -/
theorem failed_write_leaves_front_once :
    ∃ img w, (Image.ofDevice ((Device.memory 700).refusing (.once 4)) 700).start
        (Bytes.zeros 1400, 0) = (.ok img, w) ∧
      img.LeavesFront w := by
  have hsize := Bytes.size_zeros 1400
  generalize Bytes.zeros 1400 = disk at hsize ⊢
  have hcount : ((Device.memory 700).refusing (.once 4)).answer .count (disk, 0) =
      (.ok 2, (disk, 1)) := by
    change (Except.ok (disk.size / 700), (disk, 1)) = _
    rw [hsize]
  obtain ⟨img, w, hopened, hw⟩ := Image.exists_ofDevice hcount ⟨by decide, rfl⟩
  refine ⟨img, w, hopened, failed_write_leaves_front (fun _ => rfl) ?_ hopened ?_⟩
  · rw [hsize]
    decide
  · rw [hw]

end FatImage
