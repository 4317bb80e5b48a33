import FatImage.Proofs.Events
import FatImage.Proofs.Skipping

/-!
# The passage of a file

A file passes through stages, and the reader is told of each step from one to
the next. What the steps are worth depends on where they stand: a file that
is said to be written must have its bytes on the disk by then, and must not
have a record yet. The journal has the calls, the loads and the steps in one
order, so this can be read off it.

`PlacedBy` is the journal of one file that is placed: reads, the step to
allocated, what goes to the data region, the step to written, what goes to
the table and then to the directory, the last two steps with nothing between
them. A file at which the run stops has a front part of this (`StoppedBy`),
and a file that cannot be had has its one step and no calls. `Course` puts
these together in the order of the manifest. Whatever fails in a run, its
journal is a course, between what comes before the first entry and the flush.

Where the calls go is told by the places of the layout, so none of these may
be cut. On a device that keeps a disk this needs no assumption: if a place is
cut, then the reset fails, and the run comes to no entry.
-/

namespace FatImage

variable {σ τ : Type} {look : σ → τ} {l : Layout}

/-! ## The journal of one file -/

namespace Layout

/-- The call goes to the allocation table. -/
def InTable (l : Layout) : Call → Prop :=
  Call.Lies l.sectorSize l.tableOffset l.rootStart

/-- The call goes to the root directory. -/
def InDirectory (l : Layout) : Call → Prop :=
  Call.Lies l.sectorSize l.rootStart l.dataStart

/-- The call goes to the data region. -/
def InData (l : Layout) (c : Call) : Prop :=
  ∃ stop, c.Lies l.sectorSize l.dataStart stop

end Layout

/-- The reader is told that a file has come from one stage to another. -/
def Event.told (name : ShortName) (old new : Stage) : Event :=
  .notice (.moved name old new)

/-- What there is to be seen of a file that is placed. -/
inductive PlacedBy (l : Layout) (name : ShortName) : List Event → Prop
  | mk {reads data links record : List Event} (size : UInt32) (start : UInt16)
      (hreads : ∀ e ∈ reads, e.Transfers Call.IsRead) (hdata : ∀ e ∈ data, e.Transfers l.InData)
      (hlinks : ∀ e ∈ links, e.Transfers l.InTable)
      (hrecord : ∀ e ∈ record, e.Transfers l.InDirectory) :
      PlacedBy l name (reads ++ .told name .pending .allocated ::
        (data ++ .told name .allocated .written ::
          (links ++ (record ++ [.told name .written .recorded, .told name .recorded .done,
            .notice (.placed name size start)]))))

/-- What there is to be seen of a file at which the run stops: no place is found for it,
or something of it cannot be written. -/
inductive StoppedBy (l : Layout) (name : ShortName) : List Event → Prop
  | allocating {reads : List Event} (hreads : ∀ e ∈ reads, e.Transfers Call.IsRead) :
      StoppedBy l name reads
  | writing {reads data : List Event} (hreads : ∀ e ∈ reads, e.Transfers Call.IsRead)
      (hdata : ∀ e ∈ data, e.Transfers l.InData) :
      StoppedBy l name (reads ++ .told name .pending .allocated :: data)
  | linking {reads data links : List Event} (hreads : ∀ e ∈ reads, e.Transfers Call.IsRead)
      (hdata : ∀ e ∈ data, e.Transfers l.InData) (hlinks : ∀ e ∈ links, e.Transfers l.InTable) :
      StoppedBy l name (reads ++ .told name .pending .allocated ::
        (data ++ .told name .allocated .written :: links))
  | recording {reads data links record : List Event}
      (hreads : ∀ e ∈ reads, e.Transfers Call.IsRead) (hdata : ∀ e ∈ data, e.Transfers l.InData)
      (hlinks : ∀ e ∈ links, e.Transfers l.InTable)
      (hrecord : ∀ e ∈ record, e.Transfers l.InDirectory) :
      StoppedBy l name (reads ++ .told name .pending .allocated ::
        (data ++ .told name .allocated .written :: (links ++ record)))

/-- What there is to be seen of the entries of a run that ends as `stop` says, with no
failure or with one: each entry by itself, in order, up to the one that failed. -/
inductive Course (l : Layout) : (answers : List (Entry × Except String ByteArray)) →
    List Event → (stop : Option VolumeError) → Prop
  | nil : Course l [] [] none
  | skip {e : Entry} {reason : String} {rest : List (Entry × Except String ByteArray)}
      {events : List Event} {stop : Option VolumeError} (h : Course l rest events stop) :
      Course l ((e, .error reason) :: rest) (.load e.name false ::
        .notice (.skipping e.name e.source reason) ::
          .told e.name .pending .skipped :: events) stop
  | place {e : Entry} {data : ByteArray} {rest : List (Entry × Except String ByteArray)}
      {own events : List Event} {stop : Option VolumeError} (hown : PlacedBy l e.name own)
      (h : Course l rest events stop) :
      Course l ((e, .ok data) :: rest) (.load e.name true :: (own ++ events)) stop
  | stop {e : Entry} {data : ByteArray} {rest : List (Entry × Except String ByteArray)}
      {own : List Event} (hown : StoppedBy l e.name own) (why : VolumeError) :
      Course l ((e, .ok data) :: rest) (.load e.name true :: own) (some why)

/-- The event belongs to an entry of the manifest. -/
def Event.OfEntry : Event → Prop
  | .load _ _ => True
  | .notice (.moved _ _ _) => True
  | .notice (.skipping _ _ _) => True
  | .notice (.placed _ _ _) => True
  | _ => False

theorem Event.Transfers.not_ofEntry {allowed : Call → Prop} {e : Event}
    (h : e.Transfers allowed) : ¬ e.OfEntry := by
  unfold Transfers at h
  split at h
  · exact id
  · exact id
  · exact h.elim

/-! ## The steps of placing -/

theorem Layout.dataStart_le_cluster {c : UInt16} {offset : Nat}
    (h : l.clusterStart? c = some offset) : l.dataStart ≤ offset := by
  unfold clusterStart? at h
  split at h
  · cases h
  · cases h
    exact Nat.le_add_right _ _

namespace Volume

/-- The image can be watched, and has sectors as the layout says. -/
structure Watched (vol : Volume σ) (look : σ → τ) : Prop where
  image : vol.image.Watched look
  sector : vol.image.sectorSize = vol.layout.sectorSize
  least : leastSectorSize ≤ vol.layout.sectorSize

variable {vol : Volume σ}

theorem Watched.pos (h : vol.Watched look) : 0 < vol.layout.sectorSize :=
  h.sector ▸ vol.image.sectorSize_pos

/-- What is written between two bounds of sectors of the layout. -/
theorem Watched.writeAt (h : vol.Watched look) {first stop pos : Nat} {data : ByteArray}
    (hfirst : vol.layout.sectorSize ∣ first) (hstop : vol.layout.sectorSize ∣ stop)
    (hpos : first ≤ pos) (hend : pos + data.size ≤ stop) :
    (vol.image.writeAt pos data).Adds look
      (Event.Transfers (Call.Lies vol.layout.sectorSize first stop)) := by
  rw [← h.sector] at hfirst hstop ⊢
  exact h.image.writeAt hfirst hstop hpos hend

theorem Watched.freeSlotFrom (h : vol.Watched look) (count first : Nat) :
    (vol.freeSlotFrom count first).Adds look (Event.Transfers Call.IsRead) := by
  induction count generalizing first with
  | zero => exact Action.adds_throw
  | succ count ih =>
      rw [Volume.freeSlotFrom]
      refine (h.image.readAt (fun _ => trivial) _ _).bind fun sector => ?_
      split
      · exact Action.adds_pure
      · exact ih (first + 1)

theorem Watched.takeSlot (h : vol.Watched look) (start : UInt16) {n : Nat}
    (hn : n < 0x100000000) : (vol.takeSlot start n).Tells look
      (fun a new => a.clusters.toNat ≤ 0x800000 ∧ ∀ e ∈ new, e.Transfers Call.IsRead)
      (fun _ new => ∀ e ∈ new, e.Transfers Call.IsRead) := by
  have hle := Layout.clustersFor_le_of_lt h.least hn
  have hclusters : (vol.layout.clustersFor n).toUInt32.toNat = vol.layout.clustersFor n :=
    UInt32.toNat_ofNat_of_lt' (Nat.lt_of_le_of_lt hle (by decide))
  refine Action.Tells.bind (h.freeSlotFrom _ 0) (fun slot front hfront => ?_) fun _ _ hnew => hnew
  refine Action.tells_pure ⟨hclusters.trans_le hle, ?_⟩
  rwa [List.append_nil]

/-- To find a place for a file only reads, and no more clusters are found than a file has that
32 bits can count. -/
theorem Watched.allocate (h : vol.Watched look) (cursor : Cursor) (length : Nat) :
    (vol.allocate cursor length).Tells look
      (fun a new => a.clusters.toNat ≤ 0x800000 ∧ ∀ e ∈ new, e.Transfers Call.IsRead)
      (fun _ new => ∀ e ∈ new, e.Transfers Call.IsRead) := by
  rcases Nat.lt_or_ge length (0x100000000) with hlength | hlength
  · rw [allocate_eq vol h.pos cursor hlength]
    split
    · exact h.takeSlot 0 hlength
    · exact Action.tells_ofExcept_bind (fun _ _ => h.takeSlot _ hlength)
        fun _ _ => List.forall_mem_nil _
  · unfold Volume.allocate
    rw [if_pos hlength]
    exact Action.tells_ofExcept_bind (r := Except.error (VolumeError.fileTooLarge _))
      (fun _ he => by cases he) fun _ _ => List.forall_mem_nil _

variable (hu : vol.layout.Uncut)
include hu

theorem Watched.writePayload (h : vol.Watched look) (start : UInt16) (data : ByteArray) :
    (vol.writePayload start data).Adds look (Event.Transfers vol.layout.InData) := by
  unfold Volume.writePayload
  split
  · exact Action.adds_pure
  · split
    · exact Action.adds_throw
    · next offset hoffset =>
        rw [hu.clusterOffset?_eq] at hoffset
        have hdata := Layout.dataStart_le_cluster hoffset
        have hend : offset + data.size ≤ vol.layout.sectorSize * (offset + data.size) :=
          Nat.le_mul_of_pos_left _ h.pos
        exact (h.writeAt vol.layout.dvd_dataStart (Nat.dvd_mul_right _ _) hdata hend).mono
          fun _ he => he.mono fun _ hc => ⟨_, hc⟩

/-- The links that are checked are those of a file that 32 bits count. -/
theorem Watched.linkChain (h : vol.Watched look) (start : UInt16) {count : Nat}
    (hstop : start.toNat + count ≤ 0x100000000) :
    (vol.linkChain start count).Adds look (Event.Transfers vol.layout.InTable) := by
  refine Action.adds_ofExcept_bind fun _ hcheck => ?_
  split
  · next hcount =>
      refine Action.adds_forEach fun i _ hi => ?_
      have hlast := (Layout.checkChain_eq_ok_iff hstop).1 hcheck hcount
      have hmirror := Layout.mirror_end_le_root (show i < vol.layout.mirrors by omega)
      have htable := Layout.tableOffset_le_mirror vol.layout i
      have hlimit := Layout.two_mul_clusterLimit_le vol.layout
      have hlinks : ((chainLinks start count).flatMap Bytes.littleEndian16).toByteArray.size =
          2 * count := by
        rw [chainLinks_eq hcount]
        exact Layout.size_linkBytes _ _
      have hoffset := Layout.linkStart_eq vol.layout i start
      rw [hu.linkOffset_eq (by omega)]
      exact h.writeAt vol.layout.dvd_tableOffset (vol.layout.dvd_mirrorStart _) (by omega)
        (by omega)
  · exact Action.adds_pure

theorem Watched.writeRecord (h : vol.Watched look) (slot : Nat) (r : Record) :
    (vol.writeRecord slot r).Adds look (Event.Transfers vol.layout.InDirectory) := by
  unfold Volume.writeRecord
  split
  · exact Action.adds_throw
  · next hslot =>
      have hend := Layout.slotStart_end_le (Nat.not_le.1 hslot)
      have hrecord := Record.size_encode r
      rw [hu.bounded.slotOffset_eq (Nat.not_le.1 hslot)]
      refine h.writeAt (vol.layout.dvd_mirrorStart _) vol.layout.dvd_dataStart
        (Nat.le_add_right _ _) ?_
      rw [hrecord]
      exact hend

/-- A file passes through its stages in order, or the run stops at one of them. -/
theorem Watched.place (h : vol.Watched look) (cursor : Cursor) (name : ShortName)
    (data : ByteArray) : (vol.place cursor name data).Tells look
      (fun _ new => PlacedBy vol.layout name new) (fun _ new => StoppedBy vol.layout name new) := by
  unfold Volume.place
  refine Action.Tells.bind (h.allocate cursor data.size) ?_ fun _ _ hreads => .allocating hreads
  rintro a reads ⟨hcount, hreads⟩
  have hstart := a.start.toNat_lt
  refine Action.tells_record_bind ?_
  refine Action.Tells.bind (h.writePayload hu a.start data) (fun _ payload hdata => ?_)
    fun _ _ hdata => .writing hreads hdata
  refine Action.tells_record_bind ?_
  refine Action.Tells.bind (h.linkChain hu a.start (by omega)) (fun _ links hlinks => ?_)
    fun _ _ hlinks => .linking hreads hdata hlinks
  refine Action.Tells.bind (h.writeRecord hu a.slot _) (fun _ record hrecord => ?_)
    fun _ _ hrecord => .recording hreads hdata hlinks hrecord
  refine Action.tells_record_bind (Action.tells_record_bind (Action.tells_record_bind ?_))
  exact Action.tells_pure (.mk a.size a.start hreads hdata hlinks hrecord)

end Volume

/-! ## Runs -/

/-- Why it failed, if it did. -/
def failure? {ε α : Type} : Except ε α → Option ε
  | .ok _ => none
  | .error e => some e

namespace Volume

variable {vol : Volume (σ × τ)}

/-- The events of a run over entries are a course, and it stops where the run fails. -/
theorem Watched.placeAll (hu : vol.layout.Uncut) (h : vol.Watched Prod.snd) (load : Loader τ)
    (entries : List Entry) (report : Report) (w : World (σ × τ)) : ∃ r w' events,
      (vol.placeAll load.source report entries).outcome w = (r, w') ∧
      w'.journal.toList = w.journal.toList ++ events ∧
      Course vol.layout (load.answers entries w.state.2) events (failure? r) := by
  induction entries generalizing report w with
  | nil => exact ⟨.ok report, w, [], rfl, (List.append_nil _).symm, .nil⟩
  | cons e rest ih =>
      rcases hload : load e w.state.2 with ⟨reason | data, t⟩
      · rw [outcome_placeAll_skip vol report rest hload, Loader.answers, hload]
        obtain ⟨r, w', events, hrest, hjournal, hcourse⟩ := ih
          { report with skipped := report.skipped.push ⟨e.name, e.source, reason⟩ }
          (World.passedOver ⟨(w.state.1, t), w.journal⟩ e reason)
        refine ⟨r, w', .load e.name false :: .notice (.skipping e.name e.source reason) ::
          .told e.name .pending .skipped :: events, hrest, ?_, .skip hcourse⟩
        rw [hjournal, World.passedOver]
        simp only [Array.toList_push, List.append_assoc, List.cons_append, List.nil_append]
        rfl
      · rw [outcome_placeAll_place vol report rest hload, Loader.answers, hload]
        obtain ⟨r₁, w₁, own, hplace, hjournal₁, hlook, htold⟩ := h.place hu report.next e.name data
          (World.loaded ⟨(w.state.1, t), w.journal⟩ e)
        have hown : w₁.journal.toList = w.journal.toList ++ .load e.name true :: own := by
          rw [hjournal₁, World.loaded, Array.toList_push, List.append_assoc,
            List.singleton_append]
        cases htold with
        | @error why _ hstopped =>
            exact ⟨.error why, w₁, .load e.name true :: own, Action.outcome_bind_of_error hplace,
              hown, .stop hstopped why⟩
        | @ok placed _ hplaced =>
            rw [Action.outcome_bind_of_ok hplace]
            obtain ⟨r, w', events, hrest, hjournal, hcourse⟩ := ih
              { report with placed := report.placed.push placed.1, next := placed.2 } w₁
            rw [hlook] at hcourse
            refine ⟨r, w', .load e.name true :: (own ++ events), hrest, ?_,
              .place hplaced hcourse⟩
            rw [hjournal, hown, List.append_assoc, List.cons_append]

theorem Watched.reset {vol : Volume σ} (h : vol.Watched look) :
    vol.reset.Adds look fun e => ¬ e.OfEntry := by
  have hquiet : ∀ {x : Action σ VolumeError Unit}, x.Adds look (Event.Transfers fun _ => True) →
      x.Adds look fun e => ¬ e.OfEntry := fun hx => hx.mono fun _ he => he.not_ofEntry
  refine Action.Adds.bind ?_ fun _ => ?_
  · exact (hquiet (h.image.zeroRange _ _)).bind fun _ => Action.adds_record id
  · refine (Action.adds_forEach fun i _ _ => ?_).bind fun _ => Action.adds_record id
    exact (hquiet (h.image.zeroRange _ _)).bind fun _ => hquiet (h.image.writeAt_anywhere _ _)

/-- A volume that was mounted on a device can be watched as the device can. -/
theorem tells_mount {d : Device σ} (hd : d.ReadsWhole)
    (hlook : ∀ c s, look (d.answer c s).2 = look s) : (Volume.mount d l).Tells look
      (fun vol new => (vol.Watched look ∧ vol.layout = l) ∧ ∀ e ∈ new, ¬ e.OfEntry)
      (fun _ new => ∀ e ∈ new, ¬ e.OfEntry) := by
  have hopened : (Volume.ofDevice d l).Tells look
      (fun vol new => (vol.Watched look ∧ vol.layout = l) ∧ ∀ e ∈ new, ¬ e.OfEntry)
      (fun _ new => ∀ e ∈ new, ¬ e.OfEntry) := by
    unfold Volume.ofDevice Image.ofDevice
    split
    · next hsize =>
      rw [bind_assoc]
      have hcount := d.tells_perform (fun _ => True) hlook trivial (c := .count)
      refine hcount.bind ?_ fun _ _ hfront e he => (hfront e he).not_ofEntry
      rintro sectors front ⟨-, hfront⟩
      refine Action.tells_pure ⟨⟨⟨⟨hd, hlook⟩, rfl, hsize.1⟩, rfl⟩, fun e he => ?_⟩
      rw [List.append_nil] at he
      exact (hfront e he).not_ofEntry
    · exact Action.tells_throw (List.forall_mem_nil _)
  refine hopened.bind (fun vol front hfront => ?_) fun _ _ hfront => hfront
  refine Action.tells_ofExcept_bind (fun _ _ => ?_) fun _ _ => ?_
  · refine Action.tells_record_bind (Action.tells_pure ⟨hfront.1, ?_⟩)
    exact List.forall_mem_append.2 ⟨hfront.2, List.forall_mem_singleton.2 id⟩
  · rw [List.append_nil]
    exact hfront.2

/-- What a run does before its flush: the reset, and then the entries if that succeeds. -/
theorem Watched.runUnflushed (h : vol.Watched Prod.snd) (load : Loader τ) (m : Manifest)
    {w : World (σ × τ)} (hu : ∀ w₁, vol.reset w = .ok () w₁ → vol.layout.Uncut) :
    ∃ r w' opening entries,
      (vol.runUnflushed m load.source).outcome w = (r, w') ∧
      w'.journal.toList = w.journal.toList ++ (opening ++ entries) ∧
      (∀ e ∈ opening, ¬ e.OfEntry) ∧
      ((entries = [] ∧ ∃ why, r = .error why) ∨
        Course vol.layout (load.answers m.entries w.state.2) entries (failure? r)) := by
  obtain ⟨r, w₁, opening, hreset, hjournal, hlook, htold⟩ := h.reset w
  unfold Volume.runUnflushed
  cases htold with
  | @error why _ hquiet =>
      exact ⟨.error why, w₁, opening, [], Action.outcome_bind_of_error hreset,
        by rw [hjournal, List.append_nil], hquiet, .inl ⟨rfl, why, rfl⟩⟩
  | ok hquiet =>
      obtain ⟨r, w', entries, hplaceAll, hjournal', hcourse⟩ :=
        h.placeAll (hu w₁ (Action.outcome_eq_ok.1 hreset)) load m.entries {} w₁
      refine ⟨r, w', opening, entries, (Action.outcome_bind_of_ok hreset).trans hplaceAll, ?_,
        hquiet, .inr (hlook ▸ hcourse)⟩
      rw [hjournal', hjournal, List.append_assoc]

end Volume

/-- The device keeps a disk, which is no longer than a disk can be, whether or not it fails. -/
def Device.KeepsDisk (d : Device σ) (s : σ) : Prop :=
  ∃ (look : σ → ByteArray × Unit) (faulty : Prop), d.Keeps look faulty ∧
    (look s).1.size < diskLimit

/-- So does a disk in memory that may refuse calls. -/
theorem Device.keepsDisk_refusing {φ : Type} {plan : FaultPlan φ}
    (honest : ∀ p, plan.claims p = none) {sectorSize : Nat} {disk : ByteArray} {p : φ}
    (hdisk : disk.size < diskLimit) :
    ((memory sectorSize).refusing plan).KeepsDisk (disk, p) :=
  ⟨_, _, (keeps_memory sectorSize).refusing honest, hdisk⟩

/-- If a volume on such a device could be reset, no place of its clusters is cut. -/
theorem Device.KeepsDisk.uncut {d : Device σ} {s : σ} (h : d.KeepsDisk s) (hnarrow : l.Narrow)
    {t : τ} {vol : Volume (σ × τ)} {w w₁ : World (σ × τ)}
    (hmount : (Volume.mount (d.beside τ) l).start (s, t) = (.ok vol, w))
    (hreset : vol.reset w = .ok () w₁) : l.Uncut := by
  obtain ⟨look, faulty, hkeeps, hdisk⟩ := h
  have hkeeps' := hkeeps.beside τ
  have hcounted : (look s).1.size < Image.greatest := Nat.lt_trans hdisk (by decide)
  have hlength := Volume.length_le_of_mount hkeeps' hcounted hmount
  obtain ⟨hw, rfl, hopened, -⟩ := Volume.opened_of_mount hkeeps' hcounted hmount
  have hor := hopened.reset_or_stops (v := ⟨(look s).1, t, []⟩) hlength hnarrow
    (Nat.lt_of_le_of_lt hlength hdisk)
  exact (hor.resolve_right fun hstops => hstops.2.of_ok hw hreset).uncut

/-- The journal of every run is a course between what comes before the first entry and the
flush, on a device that keeps a disk, or on any if the layout is such that no place is cut. If
nothing is seen of any entry, the run has failed before; else it has failed where the course
stops, if that has a stop, and has a report or a flush that failed if it has none. -/
theorem fill_course {d : Device σ} (hd : d.ReadsWhole) (l : Layout) (m : Manifest)
    (load : Loader τ) (s : σ) (t : τ) (hplaces : l.Uncut ∨ l.Narrow ∧ d.KeepsDisk s) :
    ∃ r w opening entries closing,
      (fill (d.beside τ) l m load.source).start (s, t) = (r, w) ∧
      w.journal.toList = opening ++ (entries ++ closing) ∧
      (∀ e ∈ opening, ¬ e.OfEntry) ∧ (∀ e ∈ closing, e.Transfers Call.IsFlush) ∧
      ((entries = [] ∧ ∃ why, r = .error why) ∨
        ∃ stop, Course l (load.answers m.entries t) entries stop ∧
          (∀ why, stop = some why → r = .error why) ∧
          (stop = none → r = .error .deviceFailed ∨ ∃ report, r = .ok report)) := by
  have hlook : ∀ c st, Prod.snd ((d.beside τ).answer c st).2 = Prod.snd st := fun _ _ => rfl
  obtain ⟨r₀, w₀, first, hmount, hjournal₀, hlook₀, htold⟩ :=
    Volume.tells_mount (l := l) (hd.beside τ) hlook ⟨(s, t), #[]⟩
  rw [← Action.start_eq_outcome] at hmount
  cases htold with
  | @error why _ hquiet =>
      refine ⟨.error why, w₀, first, [], [], fill_of_not_mounted hmount, ?_, hquiet,
        List.forall_mem_nil _, .inl ⟨rfl, why, rfl⟩⟩
      rw [hjournal₀, List.append_nil, List.append_nil]
      rfl
  | @ok vol _ h =>
      obtain ⟨⟨hwatched, rfl⟩, hquiet⟩ := h
      obtain ⟨r₁, w₁, second, entries, hrun, hjournal₁, hquiet', hcourse⟩ :=
        hwatched.runUnflushed load m (w := w₀) fun w₁ hreset =>
          hplaces.elim id fun hdisk => hdisk.2.uncut hdisk.1 hmount hreset
      obtain ⟨flushed, w₂, closing, hflush, hjournal₂, -, hclosing⟩ := hwatched.image.flush w₁
      obtain ⟨done, _, hdone, -⟩ := Volume.outcome_flush vol w₁
      have hflushed : flushed = if done then .ok () else .error .deviceFailed :=
        congrArg Prod.fst (hflush.symm.trans hdone)
      have hstart : w₀.state.2 = t := hlook₀
      rw [hstart] at hcourse
      refine ⟨_, w₂, first ++ second, entries, closing,
        (fill_outcome hmount).trans (Volume.outcome_run hrun hflush), ?_,
        List.forall_mem_append.2 ⟨hquiet, hquiet'⟩, ?_, ?_⟩
      · rw [hjournal₂, hjournal₁, hjournal₀]
        simp only [List.nil_append, List.append_assoc]
      · cases hclosing with
        | ok h => exact h
        | error h => exact h
      · rcases hcourse with ⟨hnone, why, rfl⟩ | hcourse
        · exact .inl ⟨hnone, why, rfl⟩
        · refine .inr ⟨failure? r₁, hcourse, ?_, ?_⟩
          · rintro why hwhy
            cases r₁ with
            | ok => cases hwhy
            | error e => cases hwhy; rfl
          · intro hnone
            cases r₁ with
            | error => cases hnone
            | ok report =>
                rw [hflushed]
                cases done
                · exact .inl rfl
                · exact .inr ⟨report, rfl⟩

/-- A run over three entries, the first of which cannot be had. The call of number 18 would
write the link of the second, so its bytes are on the disk when the device fails. -/
theorem fill_course_bootDisk : ∃ r w opening entries closing,
    (fill (Device.failingOnce 512 18 Unit) Layout.bootDisk
      ⟨[⟨1, ⟨.letterA, "a", none⟩⟩, ⟨2, ⟨.letterB, "b", some 3⟩⟩, ⟨3, ⟨.letterC, "c", some 0⟩⟩]⟩
      (Loader.source fun e t =>
        (e.placeholder.elim (.error "gone") fun n => .ok (Bytes.zeros n.toNat), t))).start
      ((Bytes.zeros 3000320, 0), ()) = (r, w) ∧
    w.journal.toList = opening ++ (entries ++ closing) ∧
    (∀ e ∈ opening, ¬ e.OfEntry) ∧ (∀ e ∈ closing, e.Transfers Call.IsFlush) ∧
    ((entries = [] ∧ ∃ why, r = .error why) ∨
      ∃ stop, Course Layout.bootDisk
        [(⟨.letterA, "a", none⟩, .error "gone"), (⟨.letterB, "b", some 3⟩, .ok (Bytes.zeros 3)),
          (⟨.letterC, "c", some 0⟩, .ok (Bytes.zeros 0))] entries stop ∧
        (∀ why, stop = some why → r = .error why) ∧
        (stop = none → r = .error .deviceFailed ∨ ∃ report, r = .ok report)) :=
  fill_course ((Device.readsWhole_memory 512).refusing (.once 18)) Layout.bootDisk _ _
    (Bytes.zeros 3000320, 0) () (.inr ⟨Layout.narrow_bootDisk,
      Device.keepsDisk_refusing (fun _ => rfl) Volume.size_zeros_lt_diskLimit⟩)

end FatImage
