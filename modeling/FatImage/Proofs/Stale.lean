import FatImage.Proofs.Fill
import FatImage.Proofs.Traffic
import FatImage.Proofs.Twice

/-!
# Nothing of the old image shows

A run writes over the table, over the root directory and over the clusters
of the files that it places. Nearly all of it is done without a look at what
was there. Only the root directory is read to decide something, and by then
it has been cleared; where a sector is patched, the bytes around the patch
go back to where they came from. So what a run answers does not depend on
the old image, and of the old image it leaves just what it does not write.

This is shown by two runs, from disks that agree in nothing but their size.
`Meet` says how far they have come together: every byte is the same on both
or still what it was at first on either, and a byte that is settled is the
same. A write settles its range, a read of settled bytes answers the same,
and a call that is refused on one disk is refused on the other, since only
the sizes decide that.

There may be no mirrors at all, or mirrors without a sector, whose headers
are then written over the directory that was cleared before. But the data
region must start at a place that 64 bits can count: a layout for which it
does not may be opened, and then the run fails in its reset and leaves what
it has not come to. What it answers does not depend on the old image even
so, nor does a second run change what the first has left.
-/

namespace FatImage

variable {σ τ : Type} {look : σ → ByteArray × τ} {base base' : ByteArray}
variable {A : τ → τ → Prop} {placed : List Placing} {settled settled' : Nat → Prop}

/-! ## Two disks -/

/-- Where writing has brought two disks that were `base` and `base'`: a byte is the
same on both, or it is not settled and on either of them what it was at first. -/
structure Meet (base base' : ByteArray) (settled : Nat → Prop) (b b' : ByteArray) :
    Prop where
  size : b.size = base.size
  size' : b'.size = base.size
  byte : ∀ x, Bytes.byteAt b x = Bytes.byteAt b' x ∨ (¬ settled x ∧
    Bytes.byteAt b x = Bytes.byteAt base x ∧ Bytes.byteAt b' x = Bytes.byteAt base' x)

namespace Meet

variable {b b' : ByteArray}

theorem start (h : base'.size = base.size) : Meet base base' (fun _ => False) base base' :=
  ⟨rfl, h, fun _ => Or.inr ⟨not_false, rfl, rfl⟩⟩

theorem mono (h : Meet base base' settled b b') (hs : ∀ x, settled' x → settled x) :
    Meet base base' settled' b b' :=
  ⟨h.size, h.size', fun x => (h.byte x).imp_right fun hx => ⟨fun hx' => hx.1 (hs x hx'), hx.2⟩⟩

theorem byteAt_eq (h : Meet base base' settled b b') {x : Nat} (hx : settled x) :
    Bytes.byteAt b x = Bytes.byteAt b' x :=
  (h.byte x).resolve_right fun hx' => hx'.1 hx

theorem slice_eq (h : Meet base base' settled b b') {o n : Nat} (hfit : o + n ≤ base.size)
    (hs : ∀ x, o ≤ x → x < o + n → settled x) : Bytes.slice b o n = Bytes.slice b' o n := by
  refine Bytes.slice_congr (by rw [h.size]; exact hfit) (by rw [h.size']; exact hfit) ?_
  exact fun i hi => h.byteAt_eq (hs _ (by omega) (by omega))

/-- What is written on both is the same on both. -/
theorem overwrite (h : Meet base base' settled b b') {o : Nat} {d : ByteArray}
    (hfit : o + d.size ≤ base.size) :
    Meet base base' (fun x => settled x ∨ (o ≤ x ∧ x < o + d.size)) (Bytes.overwrite b o d)
      (Bytes.overwrite b' o d) := by
  have hb : o + d.size ≤ b.size := by rw [h.size]; exact hfit
  have hb' : o + d.size ≤ b'.size := by rw [h.size']; exact hfit
  refine ⟨?_, ?_, fun x => ?_⟩
  · rw [Bytes.size_overwrite hb, h.size]
  · rw [Bytes.size_overwrite hb', h.size']
  · rw [Bytes.byteAt_overwrite hb, Bytes.byteAt_overwrite hb']
    split
    · exact Or.inl rfl
    · next hx => exact (h.byte x).imp_right fun hx' => ⟨fun hs => hs.elim hx'.1 hx, hx'.2⟩

/-- Disks that differed only where they are settled by now are the same. -/
theorem eq (h : Meet base base' settled b b')
    (hbase : ∀ x, ¬ settled x → Bytes.byteAt base' x = Bytes.byteAt base x) : b' = b := by
  refine Bytes.ext_byteAt (by rw [h.size', h.size]) fun x _ => ?_
  rcases h.byte x with hx | ⟨hx, hb, hb'⟩
  · exact hx.symm
  · rw [hb, hb', hbase x hx]

/-- A second run over the disk that the first has left changes nothing of it. -/
theorem eq_of_left (h : Meet base b settled b b') : b' = b := by
  refine Bytes.ext_byteAt (by rw [h.size', h.size]) fun x _ => ?_
  rcases h.byte x with hx | ⟨-, -, hb'⟩
  · exact hx.symm
  · exact hb'

end Meet

/-! ## Two runs -/

/-- Two runs have told of the same files, what they have beside their disks is related
by `A`, and their disks meet. -/
structure Joined (base base' : ByteArray) (A : τ → τ → Prop) (placed : List Placing)
    (settled : Nat → Prop) (v v' : View τ) : Prop where
  meet : Meet base base' settled v.disk v'.disk
  aside : A v.aside v'.aside
  told : v.placed = placed
  told' : v'.placed = placed

theorem Joined.mono {v v' : View τ} (h : Joined base base' A placed settled v v')
    (hs : ∀ x, settled' x → settled x) : Joined base base' A placed settled' v v' :=
  ⟨h.meet.mono hs, h.aside, h.told, h.told'⟩

section

variable {ε α β : Type} {pre : View τ → View τ → Prop}

theorem endsAlike_quiet {e : Event} (he : e.placed? = none)
    {fail : ε → View τ → View τ → Prop} :
    (Action.record e : Action σ ε Unit).EndsAlike (World.view look) pre (fun _ => pre)
      fail :=
  Action.endsAlike_of_changes id fun _ _ hv => ⟨ends_quiet he, ends_quiet he, hv⟩

theorem endsAlike_quiet_bind {e : Event} (he : e.placed? = none) {f : Unit → Action σ ε β}
    {post : β → View τ → View τ → Prop} {fail : ε → View τ → View τ → Prop}
    (h : (f ()).EndsAlike (World.view look) pre post fail) :
    Action.EndsAlike (Action.record e >>= f) (World.view look) pre post fail :=
  Action.EndsAlike.bind (endsAlike_quiet he) (fun _ => h) (fun _ _ _ he => he)

theorem endsAlike_placed {name : ShortName} {size : UInt32} {cluster : UInt16}
    {fail : ε → View τ → View τ → Prop} :
    (Action.note (.placed name size cluster) : Action σ ε Unit).EndsAlike (World.view look)
      (Joined base base' A placed settled)
      (fun _ => Joined base base' A (placed ++ [(name, size, cluster)]) settled) fail :=
  Action.endsAlike_of_changes (fun v => { v with placed := v.placed ++ [(name, size, cluster)] })
    fun _ _ hv => ⟨ends_placed, ends_placed, hv.meet, hv.aside, by rw [hv.told],
      by rw [hv.told']⟩

/-- Both runs read the same. -/
theorem endsAlike_of_reads {x : Action σ VolumeError α}
    {fail : VolumeError → View τ → View τ → Prop}
    (h : ∀ v v', pre v v' → ∃ a, x.Reads look False v a ∧ x.Reads look False v' a) :
    x.EndsAlike (World.view look) pre (fun _ => pre) fail := by
  refine Action.endsAlike_of_ends fun v v' hv => ?_
  obtain ⟨a, hx, hy⟩ := h v v' hv
  exact ⟨a, v, v', Action.Ends.mono hx (fun _ _ h => h) (fun _ _ he => he.1.2),
    Action.Ends.mono hy (fun _ _ h => h) (fun _ _ he => he.1.2), hv⟩

/-- Both runs write the same `n` bytes. -/
theorem endsAlike_of_writes {x : Action σ VolumeError Unit} {o n : Nat} {d : ByteArray}
    {fail : VolumeError → View τ → View τ → Prop} (hd : d.size = n)
    (hfit : o + n ≤ base.size)
    (h : ∀ v : View τ, v.disk.size = base.size → x.Ends (World.view look) v
      (fun _ v' => v' = { v with disk := Bytes.overwrite v.disk o d })
      (fun _ _ => False)) :
    x.EndsAlike (World.view look) (Joined base base' A placed settled)
      (fun _ => Joined base base' A placed fun x => settled x ∨ (o ≤ x ∧ x < o + n))
      fail := by
  subst hd
  refine Action.endsAlike_of_changes
    (fun v => { v with disk := Bytes.overwrite v.disk o d }) fun v v' hv => ?_
  exact ⟨h v hv.meet.size, h v' hv.meet.size', hv.meet.overwrite hfit, hv.aside, hv.told,
    hv.told'⟩

end

/-! ## Ranges -/

namespace Image

variable {img : Image σ} {o n : Nat} {d : ByteArray}

/-- A write is refused on both disks or on neither. -/
theorem Backed.writeAt_meets (h : img.Backed look False) (hlength : img.length ≤ base.size) :
    (img.writeAt o d).EndsAlike (World.view look) (Joined base base' A placed settled)
      (fun _ => Joined base base' A placed fun x => settled x ∨ (o ≤ x ∧ x < o + d.size))
      (fun _ v v' => img.length < o + d.size ∧ Joined base base' A placed settled v v') := by
  rw [writeAt_eq]
  refine Action.endsAlike_ofExcept_bind (fun _ hok => ?_) (fun _ he v v' hv => ?_)
  · have hfit := le_length_of_checkRange h.counted hok
    refine endsAlike_of_writes rfl (by omega) fun v hv => ?_
    exact Action.Ends.mono (h.writeFrom (by omega) hfit) (fun _ _ hv₁ => hv₁)
      (fun _ _ he => he.1.2)
  · obtain ⟨hlt, -⟩ := checkRange_eq_error_iff.1 he
    exact ⟨by omega, hv⟩

theorem Backed.zeroRange_meets (h : img.Backed look False)
    (hlength : img.length ≤ base.size) :
    (img.zeroRange o n).EndsAlike (World.view look) (Joined base base' A placed settled)
      (fun _ => Joined base base' A placed fun x => settled x ∨ (o ≤ x ∧ x < o + n))
      (fun _ v v' => img.length < o + n ∧ Joined base base' A placed settled v v') := by
  rw [zeroRange_eq]
  refine Action.endsAlike_ofExcept_bind (fun _ hok => ?_) (fun _ he v v' hv => ?_)
  · have hfit := le_length_of_checkRange h.counted hok
    refine endsAlike_of_writes (Bytes.size_zeros n) (by omega) fun v hv => ?_
    exact (h.zeroFrom (by omega) hfit).mono (fun _ _ hv₁ => hv₁) (fun _ _ he => he.1.2)
  · obtain ⟨hlt, -⟩ := checkRange_eq_error_iff.1 he
    exact ⟨by omega, hv⟩

/-- A read of settled bytes does not tell the disks apart. -/
theorem Backed.readAt_meets (h : img.Backed look False) (hlength : img.length ≤ base.size)
    (hfit : o + n ≤ img.length) (hs : ∀ x, o ≤ x → x < o + n → settled x)
    {fail : VolumeError → View τ → View τ → Prop} :
    (img.readAt o n).EndsAlike (World.view look) (Joined base base' A placed settled)
      (fun _ => Joined base base' A placed settled) fail := by
  refine endsAlike_of_reads fun v v' hv => ?_
  have hsize := hv.meet.size
  have hsize' := hv.meet.size'
  have hy := h.readAt (v := v') (by omega) hfit
  rw [← hv.meet.slice_eq (by omega) hs] at hy
  exact ⟨_, h.readAt (by omega) hfit, hy⟩

end Image

/-! ## Resetting -/

namespace Layout

/-- The bytes of the table and of the root directory. -/
def IsMetadata (l : Layout) (x : Nat) : Prop :=
  l.tableOffset ≤ x ∧ x < l.dataStart

/-- The bytes of these files. A run has written no others of any file: one that it does
not place is refused before a byte of it is written. -/
def IsPayload (l : Layout) (placed : List Placing) (x : Nat) : Prop :=
  ∃ p ∈ placed, l.payloadOffset p.2.2.toNat ≤ x ∧
    x < l.payloadOffset p.2.2.toNat + p.2.1.toNat

/-- What a run that places these files writes over, whatever was there. -/
def IsReplaced (l : Layout) (placed : List Placing) (x : Nat) : Prop :=
  l.IsMetadata x ∨ l.IsPayload placed x

/-- What a reset has cleared before the round of mirror `i`. -/
def IsCleared (l : Layout) (i x : Nat) : Prop :=
  (l.rootStart ≤ x ∧ x < l.dataStart) ∨ (l.tableOffset ≤ x ∧ x < l.mirrorStart i)

end Layout

namespace Volume

variable {vol : Volume σ}

theorem Whole.resetMirror_meets (h : vol.Whole look False)
    (hlength : vol.image.length ≤ base.size) {i : Nat} (hi : i < vol.layout.mirrors) :
    (vol.resetMirror i).EndsAlike (World.view look)
      (Joined base base' A placed (vol.layout.IsCleared i))
      (fun _ => Joined base base' A placed (vol.layout.IsCleared (i + 1)))
      (fun _ => Joined base base' A placed vol.layout.IsMetadata) := by
  have hnext := Layout.mirrorStart_succ vol.layout i
  have hend := Layout.mirror_end_le_root hi
  have hroot := Layout.rootStart_le_data vol.layout
  have hdata := h.data
  unfold Volume.resetMirror
  rw [h.bounded.mirrorOffset_eq (Nat.le_of_lt hi)]
  refine (h.backed.zeroRange_meets hlength).bind (fun _ => ?_) ?_
  · refine (h.backed.writeAt_meets hlength).mono (fun _ v v' hv => ?_) ?_
    · refine hv.mono fun x hx => ?_
      unfold Layout.IsCleared at hx ⊢
      omega
    · rintro e v v' ⟨hlong, hv⟩
      -- a mirror with sectors has room for its header, so there are none
      have hzero : vol.layout.mirrorSectors = 0 := by
        refine Nat.eq_zero_of_not_pos fun hpos => ?_
        have hroom := h.four_le_mirrorBytes hpos
        have hheader : mediaHeader.size = 4 := Layout.length_mediaHeader
        omega
      have hempty : vol.layout.rootStart = vol.layout.tableOffset :=
        Layout.mirrorStart_of_mirrorSectors_eq_zero hzero _
      refine hv.mono fun x hx => ?_
      unfold Layout.IsMetadata at hx
      unfold Layout.IsCleared
      omega
  · rintro e v v' ⟨hlong, -⟩
    omega

/-- A reset settles the table and the root directory, even if it fails on the way. -/
theorem Whole.reset_meets (h : vol.Whole look False)
    (hlength : vol.image.length ≤ base.size) :
    vol.reset.EndsAlike (World.view look) (Joined base base' A placed settled)
      (fun _ => Joined base base' A placed vol.layout.IsMetadata)
      (fun _ => Joined base base' A placed vol.layout.IsMetadata) := by
  have hend : vol.layout.dataStart = vol.layout.rootStart + vol.layout.rootBytes := rfl
  have hdata := h.data
  have hclear : vol.clearDirectory.EndsAlike (World.view look)
      (Joined base base' A placed settled)
      (fun _ => Joined base base' A placed (vol.layout.IsCleared 0))
      (fun _ => Joined base base' A placed vol.layout.IsMetadata) := by
    unfold Volume.clearDirectory
    rw [h.bounded.rootOffset_eq]
    refine (h.backed.zeroRange_meets hlength).bind (fun _ => ?_) ?_
    · refine (endsAlike_quiet rfl).mono (fun _ v v' hv => ?_) (fun _ _ _ he => he)
      refine hv.mono fun x hx => ?_
      unfold Layout.IsCleared Layout.mirrorStart at hx
      omega
    · rintro e v v' ⟨hlong, -⟩
      omega
  have htable : vol.resetTable.EndsAlike (World.view look)
      (Joined base base' A placed (vol.layout.IsCleared 0))
      (fun _ => Joined base base' A placed vol.layout.IsMetadata)
      (fun _ => Joined base base' A placed vol.layout.IsMetadata) := by
    refine (Action.endsAlike_forEach
      (fun i => Joined base base' A placed (vol.layout.IsCleared i))
      fun i _ hi => h.resetMirror_meets hlength (by omega)).bind (fun _ => ?_)
      (fun _ _ _ he => he)
    refine (endsAlike_quiet rfl).mono (fun _ v v' hv => ?_) (fun _ _ _ he => he)
    refine hv.mono fun x hx => ?_
    rw [Nat.zero_add]
    unfold Layout.IsMetadata at hx
    unfold Layout.IsCleared
    rw [Layout.rootStart]
    omega
  exact hclear.bind (fun _ => htable) (fun _ _ _ he => he)

/-- Wherever the regions of a volume are, what is settled stays so in a reset. -/
theorem Opened.reset_meets (h : vol.Opened look False) (hlength : vol.image.length ≤ base.size) :
    vol.reset.EndsAlike (World.view look) (Joined base base' A placed settled)
      (fun _ => Joined base base' A placed settled)
      (fun _ => Joined base base' A placed settled) := by
  have hfewer : ∀ (p q : Nat → Prop) (v v' : View τ),
      Joined base base' A placed (fun x => p x ∨ q x) v v' → Joined base base' A placed p v v' :=
    fun _ _ _ _ hv => hv.mono fun _ => Or.inl
  have hclear : vol.clearDirectory.EndsAlike (World.view look)
      (Joined base base' A placed settled) (fun _ => Joined base base' A placed settled)
      (fun _ => Joined base base' A placed settled) := by
    refine ((h.backed.zeroRange_meets hlength).mono (fun _ => hfewer _ _)
      (fun _ _ _ he => he.2)).bind (fun _ => ?_) (fun _ _ _ he => he)
    exact endsAlike_quiet rfl
  have hmirror : ∀ i, (vol.resetMirror i).EndsAlike (World.view look)
      (Joined base base' A placed settled) (fun _ => Joined base base' A placed settled)
      (fun _ => Joined base base' A placed settled) := by
    intro i
    refine ((h.backed.zeroRange_meets hlength).mono (fun _ => hfewer _ _)
      (fun _ _ _ he => he.2)).bind (fun _ => ?_) (fun _ _ _ he => he)
    exact (h.backed.writeAt_meets hlength).mono (fun _ => hfewer _ _) (fun _ _ _ he => he.2)
  refine hclear.bind (fun _ => ?_) (fun _ _ _ he => he)
  exact (Action.endsAlike_forEach (fun _ => Joined base base' A placed settled)
    fun i _ _ => hmirror i).bind (fun _ => endsAlike_quiet rfl) (fun _ _ _ he => he)

/-! ## Placing -/

theorem Whole.freeSlotFrom_meets (h : vol.Whole look False)
    (hlength : vol.image.length ≤ base.size)
    (hs : ∀ x, vol.layout.IsMetadata x → settled x) :
    ∀ {count first : Nat}, first + count = vol.layout.rootSectors →
    (vol.freeSlotFrom count first).EndsAlike (World.view look)
      (Joined base base' A placed settled)
      (fun _ => Joined base base' A placed settled)
      (fun _ => Joined base base' A placed settled) := by
  intro count
  induction count with
  | zero => intro first _; exact Action.endsAlike_throw fun _ _ hv => hv
  | succ count ih =>
      intro first hfirst
      have hsectors : (first + 1) * vol.layout.sectorSize ≤ vol.layout.rootBytes :=
        Nat.mul_le_mul_right _ (by omega)
      rw [Nat.add_mul, Nat.one_mul] at hsectors
      have hend : vol.layout.dataStart = vol.layout.rootStart + vol.layout.rootBytes := rfl
      have htable := Layout.tableOffset_le_root vol.layout
      have hdata := h.data
      rw [Volume.freeSlotFrom, h.bounded.rootOffset_eq, h.bounded.cut64_eq (by omega)]
      refine (h.backed.readAt_meets hlength (by omega) fun x hx hx' => ?_).bind
        (fun sector => ?_) (fun _ _ _ he => he)
      · exact hs x ⟨by omega, by omega⟩
      · split
        · exact Action.endsAlike_pure fun _ _ hv => hv
        · exact ih (by omega)

theorem Whole.allocate_meets (h : vol.Whole look False)
    (hlength : vol.image.length ≤ base.size)
    (hs : ∀ x, vol.layout.IsMetadata x → settled x) (cursor : Cursor) (n : Nat) :
    (vol.allocate cursor n).EndsAlike (World.view look)
      (Joined base base' A placed settled)
      (fun a v v' => a.size.toNat = n ∧ Joined base base' A placed settled v v')
      (fun _ => Joined base base' A placed settled) := by
  unfold Volume.allocate
  split
  · exact Action.endsAlike_ofExcept_bind (r := Except.error _) (fun _ he => by cases he)
      (fun _ _ _ _ hv => hv)
  · next hn =>
      have hsize : n.toUInt32.toNat = n := UInt32.toNat_ofNat_of_lt' (Nat.not_le.1 hn)
      have hslot : ∀ (start : UInt16) (clusters : UInt32), (do
          let slot ← vol.freeSlot
          return ⟨start, clusters, n.toUInt32, slot⟩ :
            Action σ VolumeError Allocation).EndsAlike (World.view look)
          (Joined base base' A placed settled)
          (fun a v v' => a.size.toNat = n ∧ Joined base base' A placed settled v v')
          (fun _ => Joined base base' A placed settled) := fun start clusters =>
        (h.freeSlotFrom_meets hlength hs (Nat.zero_add _)).bind
          (fun _ => Action.endsAlike_pure fun _ _ hv => ⟨hsize, hv⟩) (fun _ _ _ he => he)
      dsimp only
      split
      · exact Action.endsAlike_ofExcept_bind (fun _ _ => hslot _ _) (fun _ _ _ _ hv => hv)
      · exact hslot _ _

theorem Whole.writePayload_meets (h : vol.Whole look False)
    (hlength : vol.image.length ≤ base.size) (start : UInt16) (data : ByteArray) :
    (vol.writePayload start data).EndsAlike (World.view look)
      (Joined base base' A placed settled)
      (fun _ => Joined base base' A placed fun x => settled x ∨
        (vol.layout.payloadOffset start.toNat ≤ x ∧
          x < vol.layout.payloadOffset start.toNat + data.size))
      (fun _ => Joined base base' A placed settled) := by
  unfold Volume.writePayload
  split
  · next hempty =>
      refine Action.endsAlike_pure fun v v' hv => hv.mono fun x hx => ?_
      exact hx.resolve_right (by omega)
  · split
    · exact Action.endsAlike_throw fun _ _ hv => hv
    · next offset hoffset =>
        have hpayload : vol.layout.payloadOffset start.toNat = offset := by
          rw [h.uncut.clusterOffset?_eq] at hoffset
          unfold Layout.clusterStart? at hoffset
          split at hoffset
          · cases hoffset
          · exact Option.some.inj hoffset
        subst hpayload
        exact (h.backed.writeAt_meets hlength).mono (fun _ _ _ hv => hv) (fun _ _ _ he => he.2)

theorem Whole.linkChain_meets (h : vol.Whole look False)
    (hlength : vol.image.length ≤ base.size) (start : UInt16) (count : Nat) :
    (vol.linkChain start count).EndsAlike (World.view look)
      (Joined base base' A placed settled)
      (fun _ => Joined base base' A placed settled)
      (fun _ => Joined base base' A placed settled) := by
  refine Action.endsAlike_ofExcept_bind (fun _ _ => ?_) (fun _ _ _ _ hv => hv)
  split
  · refine Action.endsAlike_forEach (fun _ => Joined base base' A placed settled) ?_
    intro i _ _
    refine (h.backed.writeAt_meets hlength).mono (fun _ _ _ hv => ?_) (fun _ _ _ he => he.2)
    exact hv.mono fun x hx => Or.inl hx
  · exact Action.endsAlike_pure fun _ _ hv => hv

theorem Whole.writeRecord_meets (h : vol.Whole look False)
    (hlength : vol.image.length ≤ base.size) (slot : Nat) (r : Record) :
    (vol.writeRecord slot r).EndsAlike (World.view look)
      (Joined base base' A placed settled)
      (fun _ => Joined base base' A placed settled)
      (fun _ => Joined base base' A placed settled) := by
  unfold Volume.writeRecord
  split
  · exact Action.endsAlike_throw fun _ _ hv => hv
  · refine (h.backed.writeAt_meets hlength).mono (fun _ _ _ hv => ?_) (fun _ _ _ he => he.2)
    exact hv.mono fun x hx => Or.inl hx

/-- Placing a file settles its bytes; and where it is refused, nothing is settled less. -/
theorem Whole.place_meets (h : vol.Whole look False)
    (hlength : vol.image.length ≤ base.size) (cursor : Cursor) (name : ShortName)
    (data : ByteArray) :
    (vol.place cursor name data).EndsAlike (World.view look)
      (Joined base base' A placed (vol.layout.IsReplaced placed))
      (fun r => Joined base base' A (placed ++ [r.1.placing])
        (vol.layout.IsReplaced (placed ++ [r.1.placing])))
      (fun _ => Joined base base' A placed (vol.layout.IsReplaced placed)) := by
  refine (h.allocate_meets hlength (fun x hx => Or.inl hx) cursor data.size).bind
    (fun a => Action.endsAlike_of_imp fun hsize => ?_) (fun _ _ _ he => he)
  refine endsAlike_quiet_bind rfl ?_
  refine (h.writePayload_meets hlength a.start data).bind (fun _ => ?_) (fun _ _ _ he => he)
  rw [← hsize]
  -- from here on the bytes of the file are settled, although it is not yet told of
  have hfewer : ∀ v v', Joined base base' A placed (fun x =>
      vol.layout.IsReplaced placed x ∨ (vol.layout.payloadOffset a.start.toNat ≤ x ∧
        x < vol.layout.payloadOffset a.start.toNat + a.size.toNat)) v v' →
      Joined base base' A placed (vol.layout.IsReplaced placed) v v' :=
    fun v v' hv => hv.mono fun x hx => Or.inl hx
  refine endsAlike_quiet_bind rfl ?_
  refine (h.linkChain_meets hlength a.start a.clusters.toNat).bind (fun _ => ?_)
    (fun _ => hfewer)
  refine (h.writeRecord_meets hlength a.slot _).bind (fun _ => ?_) (fun _ => hfewer)
  refine endsAlike_quiet_bind rfl (endsAlike_quiet_bind rfl ?_)
  refine endsAlike_placed.bind (fun _ => ?_) (fun _ _ _ he => he)
  refine Action.endsAlike_pure fun v v' hv => hv.mono fun x hx => ?_
  rcases hx with hx | ⟨p, hp, hx⟩
  · exact Or.inl (Or.inl hx)
  · rcases List.mem_append.1 hp with hp | hp
    · exact Or.inl (Or.inr ⟨p, hp, hx⟩)
    · rw [List.mem_singleton.1 hp] at hx
      exact Or.inr hx

end Volume

/-! ## A run -/

/-- Two runs over disks that were `base` and `base'` have told of the same files, and
what these replace is the same on both disks. -/
def Layout.Agreed (l : Layout) (base base' : ByteArray) (v v' : View τ) : Prop :=
  v'.placed = v.placed ∧ Meet base base' (l.IsReplaced v.placed) v.disk v'.disk

theorem Joined.agreed {l : Layout} {v v' : View τ}
    (h : Joined base base' A placed (l.IsReplaced placed) v v') : l.Agreed base base' v v' := by
  refine ⟨h.told'.trans h.told.symm, ?_⟩
  rw [h.told]
  exact h.meet

/-- A relation between two states of a loader, which may be a matter of the entries that
are left: as long as it holds, the next entry is answered the same from both. -/
structure Loader.Follows (load : Loader τ) (B : List Entry → τ → τ → Prop) : Prop where
  answer : ∀ {e rest t t'}, B (e :: rest) t t' → (load e t').1 = (load e t).1
  next : ∀ {e rest t t'}, B (e :: rest) t t' → B rest (load e t).2 (load e t').2

variable {load : Loader τ} {B : List Entry → τ → τ → Prop}

theorem Loader.Follows.source_meets (hB : load.Follows B) {g : σ → ByteArray} (e : Entry)
    (rest : List Entry) :
    (load.source e : Action (σ × τ) String ByteArray).EndsAlike
      (World.view fun s => (g s.1, s.2))
      (Joined base base' (B (e :: rest)) placed settled)
      (fun _ => Joined base base' (B rest) placed settled)
      (fun _ => Joined base base' (B rest) placed settled) := by
  intro w w' hw
  have hx := load.outcome_source e w
  have hy := load.outcome_source e w'
  have haside : B (e :: rest) w.state.2 w'.state.2 := hw.aside
  rw [hB.answer haside] at hy
  cases hr : (load e w.state.2).1 with
  | ok data =>
      rw [hr] at hx hy
      exact Or.inl ⟨data, _, _, hx, hy, hw.meet, hB.next haside, hw.told, hw.told'⟩
  | error reason =>
      rw [hr] at hx hy
      exact Or.inr ⟨reason, _, _, hx, hy, hw.meet, hB.next haside, hw.told, hw.told'⟩

/-- Two runs agree, and what they have beside their disks is related as it is when these
entries are left. -/
def Layout.AgreedAt (l : Layout) (base base' : ByteArray) (B : List Entry → τ → τ → Prop)
    (rest : List Entry) (v v' : View τ) : Prop :=
  l.Agreed base base' v v' ∧ B rest v.aside v'.aside

namespace Volume

variable {vol : Volume (σ × τ)} {g : σ → ByteArray}

theorem Whole.placeAll_meets (h : vol.Whole (fun s => (g s.1, s.2)) False)
    (hlength : vol.image.length ≤ base.size) (hB : load.Follows B) {entries : List Entry} :
    ∀ {report : Report} {placed : List Placing},
    (vol.placeAll load.source report entries).EndsAlike (World.view fun s => (g s.1, s.2))
      (Joined base base' (B entries) placed (vol.layout.IsReplaced placed))
      (fun _ => vol.layout.AgreedAt base base' B [])
      (fun _ v v' => ∃ rest, vol.layout.AgreedAt base base' B rest v v') := by
  induction entries with
  | nil =>
      intro report placed
      exact Action.endsAlike_pure fun _ _ hv => ⟨hv.agreed, hv.aside⟩
  | cons e rest ih =>
      intro report placed
      refine (hB.source_meets e rest).attempt_bind (fun data => ?_) (fun reason => ?_)
      · refine endsAlike_quiet_bind rfl ?_
        exact (h.place_meets hlength report.next e.name data).bind (fun _ => ih)
          (fun _ _ _ hv => ⟨rest, hv.agreed, hv.aside⟩)
      · exact endsAlike_quiet_bind rfl (endsAlike_quiet_bind rfl (endsAlike_quiet_bind rfl ih))

theorem endsAlike_answer {outcome : Except VolumeError Report}
    {flushed : Except VolumeError Unit} {look : σ → ByteArray × τ}
    {pre post fail : View τ → View τ → Prop}
    (hpost : ∀ report, outcome = .ok report → ∀ v v', pre v v' → post v v')
    (hfail : ∀ v v', pre v v' → fail v v') :
    Action.EndsAlike (do
      let report ← Action.ofExcept outcome
      Action.ofExcept flushed
      return report) (World.view look) pre (fun _ => post) (fun _ => fail) := by
  refine Action.endsAlike_ofExcept_bind (fun report hr => ?_) (fun _ _ => hfail)
  exact Action.endsAlike_ofExcept_bind (fun _ _ => Action.endsAlike_pure (hpost report hr))
    (fun _ _ => hfail)

/-- Whatever two runs have come to before the flush, they come through it alike. -/
theorem Opened.run_meets_of_unflushed (h : vol.Opened (fun s => (g s.1, s.2)) False)
    {m : Manifest} {source : Source (σ × τ)} {pre post fail : View τ → View τ → Prop}
    (hbody : (vol.runUnflushed m source).EndsAlike (World.view fun s => (g s.1, s.2)) pre
      (fun _ => post) (fun _ => fail)) (hpost : ∀ v v', post v v' → fail v v') :
    (vol.run m source).EndsAlike (World.view fun s => (g s.1, s.2)) pre (fun _ => post)
      (fun _ => fail) := by
  have hflushed : ∀ (outcome : Except VolumeError Report) (pre : View τ → View τ → Prop),
      (∀ v v', pre v v' → fail v v') →
      (∀ report, outcome = .ok report → ∀ v v', pre v v' → post v v') →
      Action.EndsAlike (do
        let flushed ← Action.attempt vol.image.flush
        let report ← Action.ofExcept outcome
        Action.ofExcept flushed
        return report) (World.view fun s => (g s.1, s.2)) pre (fun _ => post)
        (fun _ => fail) := by
    intro outcome pre hfail hpost
    exact (endsAlike_of_reads fun v v' _ => ⟨(), h.backed.flush, h.backed.flush⟩).attempt_bind
      (fun _ => endsAlike_answer hpost hfail) (fun _ => endsAlike_answer hpost hfail)
  exact hbody.attempt_bind
    (fun report => hflushed (.ok report) _ hpost fun _ _ _ _ hv => hv)
    (fun e => hflushed (.error e) _ (fun _ _ hv => hv) nofun)

theorem Whole.run_meets (h : vol.Whole (fun s => (g s.1, s.2)) False)
    (hlength : vol.image.length ≤ base.size) (hB : load.Follows B) (m : Manifest) :
    (vol.run m load.source).EndsAlike (World.view fun s => (g s.1, s.2))
      (Joined base base' (B m.entries) [] settled)
      (fun _ => vol.layout.AgreedAt base base' B [])
      (fun _ v v' => ∃ rest, vol.layout.AgreedAt base base' B rest v v') := by
  have hnone : ∀ v v' : View τ,
      Joined base base' (B m.entries) [] vol.layout.IsMetadata v v' →
      Joined base base' (B m.entries) [] (vol.layout.IsReplaced []) v v' :=
    fun v v' hv => hv.mono fun x hx => hx.resolve_right fun ⟨_, hp, _⟩ => by cases hp
  refine h.opened.run_meets_of_unflushed ?_ fun _ _ hv => ⟨[], hv⟩
  refine ((h.reset_meets hlength).mono (fun _ => hnone) ?_).bind
    (fun _ => h.placeAll_meets hlength hB) (fun _ _ _ hv => hv)
  exact fun _ v v' hv => ⟨_, (hnone v v' hv).agreed, hv.aside⟩

/-- Only the size of a disk decides what is mounted on it. -/
theorem exists_mount_of_size_eq {n : Nat} {l : Layout} {disk disk' : ByteArray} {t : τ}
    {vol : Volume (ByteArray × τ)} {w : World (ByteArray × τ)}
    (hmount : (Volume.mount ((Device.memory n).beside τ) l).start (disk, t) = (.ok vol, w))
    (hsize : disk'.size = disk.size) (t' : τ) :
    ∃ w', (Volume.mount ((Device.memory n).beside τ) l).start (disk', t') = (.ok vol, w') := by
  obtain ⟨sectors, hmounted⟩ := ends_mounted.of_ok
    (v := ⟨(disk, t), []⟩) rfl (Action.start_eq_ok.1 hmount)
  have hsectors : Except.ok (disk.size / n) = (Except.ok sectors : Except Refusal Nat) :=
    congrArg Prod.fst hmounted.count
  have hcount : ((Device.memory n).beside τ).answer .count (disk', t') =
      (.ok sectors, (disk', t')) := by
    rw [← hsectors, ← hsize]
    rfl
  obtain ⟨w', hmount', -⟩ := hmounted.exists_on hcount rfl
  rw [on_of_device hmounted.device] at hmount'
  exact ⟨w', hmount'⟩

end Volume

section

variable {n : Nat} {l : Layout} {m : Manifest} {disk : ByteArray} {t : τ}

/-- Two runs over disks of one size answer the same and replace the same bytes, if their
loaders go on alike. -/
theorem fill_agreedAt {load : Loader τ} {B : List Entry → τ → τ → Prop}
    (hB : load.Follows B) {vol : Volume (ByteArray × τ)} {w : World (ByteArray × τ)}
    (hmount : (Volume.mount ((Device.memory n).beside τ) l).start (disk, t) = (.ok vol, w))
    (hdisk : disk.size < Image.greatest) (hu : l.Uncut) {disk' : ByteArray} {t' : τ}
    (hsize : disk'.size = disk.size) (hload : B m.entries t t') :
    ∃ r w₁ w₂ rest, (fill ((Device.memory n).beside τ) l m load.source).start (disk, t) =
        (r, w₁) ∧
      (fill ((Device.memory n).beside τ) l m load.source).start (disk', t') = (r, w₂) ∧
      l.AgreedAt disk disk' B rest (World.view (fun s => (s.1, s.2)) w₁)
        (World.view (fun s => (s.1, s.2)) w₂) ∧ ∀ report, r = .ok report → rest = [] := by
  have hkeeps : ((Device.memory n).beside τ).Keeps (fun s => (s.1, s.2)) False :=
    (Device.keeps_memory n).beside τ
  obtain ⟨w', hmount'⟩ := Volume.exists_mount_of_size_eq hmount hsize t'
  obtain ⟨hw, rfl, hstands, hlength, -⟩ := Volume.whole_of_mount hkeeps hdisk hmount hu
  obtain ⟨hw', -⟩ := Volume.opened_of_mount hkeeps (hsize ▸ hdisk) hmount'
  have hjoined : Joined disk disk' (B m.entries) [] (fun _ => False)
      (World.view (fun s => (s.1, s.2)) w) (World.view (fun s => (s.1, s.2)) w') := by
    rw [hw, hw']
    exact ⟨Meet.start hsize, hload, rfl, rfl⟩
  rw [fill_outcome hmount, fill_outcome hmount']
  rcases Volume.Whole.run_meets (g := fun disk => disk) hstands hlength hB m w w' hjoined with
    ⟨report, w₁, w₂, hx, hy, h⟩ | ⟨e, w₁, w₂, hx, hy, rest, h⟩
  · exact ⟨.ok report, w₁, w₂, [], hx, hy, h, fun _ _ => rfl⟩
  · exact ⟨.error e, w₁, w₂, rest, hx, hy, h, nofun⟩

end

end FatImage
