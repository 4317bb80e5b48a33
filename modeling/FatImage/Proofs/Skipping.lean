import FatImage.Proofs.Crash
import FatImage.Proofs.Traffic

/-!
# Skipped entries leave no trace

An entry whose bytes cannot be had is told and passed over. So a run over a
manifest does to the device what the run over the other entries alone does,
call by call, and comes to the same end; all that is different is the list
of the entries that were skipped, which is theirs in the order of the
manifest.

This needs that the answer of a loader is a matter of the entry. The state
of the loader may then differ between the two runs, and of their machines
only the device and the calls are the same: they are coupled as long as
these are, and since both have the one device, they never come apart.
-/

namespace FatImage

variable {σ τ : Type} {d : Device σ} {l : Layout} {m : Manifest}

/-- The manifest with those entries only that satisfy `p`. -/
def Manifest.only (m : Manifest) (p : Entry → Bool) : Manifest where
  listings := m.listings.filter fun listing => p listing.entry

theorem Manifest.entries_only (m : Manifest) (p : Entry → Bool) :
    (m.only p).entries = m.entries.filter p := by
  rw [entries, entries, only, List.filter_map]
  rfl

/-- Two machines with the same device, which was called alike. -/
def Coupling.unseen : Coupling (σ × τ) (σ × τ) where
  together v v' := v.state.1 = v'.state.1 ∧ v.calls = v'.calls
  apart _ _ := False

theorem Coupling.unseen_perform (c : Call) {w w' : World (σ × τ)}
    (hw : Coupling.unseen.together w.traffic w'.traffic) :
    Coupling.unseen.Ended ((d.beside τ).perform c) ((d.beside τ).perform c) w w' := by
  obtain ⟨hstate, hcalls⟩ : w.state.1 = w'.state.1 ∧ w.calls = w'.calls := hw
  have hsame : ((d.beside τ).answer c w'.state).1 = ((d.beside τ).answer c w.state).1 ∧
      ((d.beside τ).answer c w'.state).2.1 = ((d.beside τ).answer c w.state).2.1 := by
    simp only [Device.beside, hstate, and_self]
  obtain ⟨r, w₁, w₁', done, hx, hy, hw₁, hw₁'⟩ := Device.outcome_perform_of_eq hsame.1.symm
  refine .both hx hy ?_
  rw [hw₁, hw₁']
  exact ⟨hsame.2.symm, by rw [hcalls]⟩

theorem Coupling.joins_unseen (hd : d.ReadsWhole) {load : Loader τ}
    {answer : Entry → Except String ByteArray} (hload : ∀ e t, (load e t).1 = answer e) :
    Coupling.unseen.Joins ⟨d.beside τ, load.source⟩ ⟨d.beside τ, load.source⟩
      (fun _ => True) where
  transfer _ hw := Coupling.unseen_perform _ hw
  load {e w w'} hw := by
    have hx := load.outcome_load e w
    have hy := load.outcome_load e w'
    rw [hload] at hx hy
    exact .both hx hy hw
  whole _ h := (hd.beside τ).size h
  alone _ := .never

/-- Two answers that differ in the entries that were skipped, and in nothing else. -/
inductive Agree (left left' : List SkippedFile) :
    Except VolumeError Report → Except VolumeError Report → Prop where
  | report {report report' : Report} (hplaced : report.placed = report'.placed)
      (hnext : report.next = report'.next) (hskipped : report.skipped.toList = left)
      (hskipped' : report'.skipped.toList = left') : Agree left left' (.ok report) (.ok report')
  | error (e : VolumeError) : Agree left left' (.error e) (.error e)

theorem Agree.bind {left left' : List SkippedFile} {r r' : Except VolumeError Report}
    (h : Agree left left' r r') (flushed : Except VolumeError Unit) :
    Agree left left' (r.bind fun report => flushed.bind fun _ => .ok report)
      (r'.bind fun report => flushed.bind fun _ => .ok report) := by
  cases h with
  | error e => exact .error e
  | report hplaced hnext hskipped hskipped' =>
      cases flushed with
      | error e => exact .error e
      | ok _ => exact .report hplaced hnext hskipped hskipped'

/-- Both actions end, with the device in the same state and called alike, and their
answers agree. -/
def EndAgreeing (left left' : List SkippedFile) (x y : Action (σ × τ) VolumeError Report)
    (w w' : World (σ × τ)) : Prop :=
  ∃ r w₁ r' w₁', x.outcome w = (r, w₁) ∧ y.outcome w' = (r', w₁') ∧
    Coupling.unseen.together w₁.traffic w₁'.traffic ∧ Agree left left' r r'

/-- What comes before two actions that end agreeing may fail, on both sides alike. -/
theorem Coupling.Ended.bind_agreeing {α : Type} {left left' : List SkippedFile}
    {x y : Action (σ × τ) VolumeError α} {f g : α → Action (σ × τ) VolumeError Report}
    {w w' : World (σ × τ)} (h : Coupling.unseen.Ended x y w w')
    (hf : ∀ a w₁ w₁', Coupling.unseen.together w₁.traffic w₁'.traffic →
      EndAgreeing left left' (f a) (g a) w₁ w₁') :
    EndAgreeing left left' (x >>= f) (y >>= g) w w' := by
  cases h with
  | first _ _ h => exact h.elim
  | @both r w₁ w₁' hx hy h =>
      cases r with
      | error e =>
          exact ⟨_, _, _, _, Action.outcome_bind_of_error hx, Action.outcome_bind_of_error hy,
            h, .error e⟩
      | ok a =>
          obtain ⟨r, w₂, r', w₂', hfa, hga, h', hagree⟩ := hf a w₁ w₁' h
          exact ⟨r, w₂, r', w₂', (Action.outcome_bind_of_ok hx).trans hfa,
            (Action.outcome_bind_of_ok hy).trans hga, h', hagree⟩

/-! ## Both runs -/

/-- The world when the bytes of an entry could not be had and this was told. -/
def World.passedOver (w : World σ) (e : Entry) (reason : String) : World σ where
  state := w.state
  journal := ((w.journal.push (.load e.name false)).push
    (.notice (.skipping e.name e.source reason))).push (.notice (.moved e.name .pending .skipped))

/-- The world when the bytes of an entry have been had. -/
def World.loaded (w : World σ) (e : Entry) : World σ where
  state := w.state
  journal := w.journal.push (.load e.name true)

theorem World.traffic_passedOver (w : World σ) (e : Entry) (reason : String) :
    (w.passedOver e reason).traffic = w.traffic := by
  rw [passedOver, traffic_push rfl, traffic_push rfl, traffic_push rfl]

theorem World.traffic_loaded (w : World σ) (e : Entry) : (w.loaded e).traffic = w.traffic := by
  rw [loaded, traffic_push rfl]

namespace Volume

/-- What cannot be loaded is passed over. -/
theorem outcome_placeAll_of_error (vol : Volume σ) {source : Source σ} (report : Report)
    (rest : List Entry) {e : Entry} {reason : String} {w w₁ : World σ}
    (h : (source e).outcome w = (.error reason, w₁)) :
    (vol.placeAll source report (e :: rest)).outcome w =
      (vol.placeAll source
        { report with skipped := report.skipped.push ⟨e.name, e.source, reason⟩ }
        rest).outcome (w₁.passedOver e reason) := by
  rw [Volume.placeAll, Action.outcome_bind_of_ok (Action.outcome_attempt h)]
  exact (Action.outcome_bind_of_ok rfl).trans
    ((Action.outcome_bind_of_ok rfl).trans (Action.outcome_bind_of_ok rfl))

theorem outcome_placeAll_of_ok (vol : Volume σ) {source : Source σ} (report : Report)
    (rest : List Entry) {e : Entry} {data : ByteArray} {w w₁ : World σ}
    (h : (source e).outcome w = (.ok data, w₁)) :
    (vol.placeAll source report (e :: rest)).outcome w =
      (vol.place report.next e.name data >>= fun r => vol.placeAll source
        { report with placed := report.placed.push r.1, next := r.2 } rest).outcome
        (w₁.loaded e) := by
  rw [Volume.placeAll, Action.outcome_bind_of_ok (Action.outcome_attempt h)]
  exact Action.outcome_bind_of_ok rfl

variable {load : Loader τ} {e : Entry} {w : World (σ × τ)}

theorem outcome_placeAll_skip (vol : Volume (σ × τ)) (report : Report) (rest : List Entry)
    {reason : String} {t : τ} (h : load e w.state.2 = (.error reason, t)) :
    (vol.placeAll load.source report (e :: rest)).outcome w =
      (vol.placeAll load.source
        { report with skipped := report.skipped.push ⟨e.name, e.source, reason⟩ }
        rest).outcome (World.passedOver ⟨(w.state.1, t), w.journal⟩ e reason) := by
  have hload := load.outcome_source e w
  rw [h] at hload
  exact outcome_placeAll_of_error vol report rest hload

theorem outcome_placeAll_place (vol : Volume (σ × τ)) (report : Report) (rest : List Entry)
    {data : ByteArray} {t : τ} (h : load e w.state.2 = (.ok data, t)) :
    (vol.placeAll load.source report (e :: rest)).outcome w =
      (vol.place report.next e.name data >>= fun r => vol.placeAll load.source
        { report with placed := report.placed.push r.1, next := r.2 } rest).outcome
        (World.loaded ⟨(w.state.1, t), w.journal⟩ e) := by
  have hload := load.outcome_source e w
  rw [h] at hload
  exact outcome_placeAll_of_ok vol report rest hload

theorem agree_placeAll {ρ : Type} (vol : Volume ρ) (hd : d.ReadsWhole)
    {answer : Entry → Except String ByteArray} (hload : ∀ e t, (load e t).1 = answer e)
    (entries : List Entry) {report report' : Report} {w w' : World (σ × τ)}
    (hw : Coupling.unseen.together w.traffic w'.traffic)
    (hplaced : report.placed = report'.placed) (hnext : report.next = report'.next) :
    EndAgreeing (report.skipped.toList ++ skipped (entries.map fun e => (e, answer e)))
      report'.skipped.toList
      ((vol.on (d.beside τ)).placeAll load.source report entries)
      ((vol.on (d.beside τ)).placeAll load.source report'
        (entries.filter fun e => (answer e).isOk)) w w' := by
  induction entries generalizing report report' w w' with
  | nil =>
      exact ⟨_, _, _, _, rfl, rfl, hw, .report hplaced hnext (List.append_nil _).symm rfl⟩
  | cons e rest ih =>
      cases hanswer : answer e with
      | error reason =>
          have hfilter : (e :: rest).filter (fun e => (answer e).isOk) =
              rest.filter fun e => (answer e).isOk :=
            List.filter_cons_of_neg (by rw [hanswer]; exact Bool.false_ne_true)
          have hx := outcome_placeAll_skip (vol.on (d.beside τ)) report rest (w := w)
            (Prod.ext ((hload e w.state.2).trans hanswer) rfl)
          rw [EndAgreeing, hx, hfilter, List.map_cons, hanswer, skipped_error]
          have htogether : Coupling.unseen.together (World.traffic (World.passedOver
              ⟨(w.state.1, (load e w.state.2).2), w.journal⟩ e reason)) w'.traffic := by
            rw [World.traffic_passedOver]
            exact hw
          have := @ih { report with
            skipped := report.skipped.push ⟨e.name, e.source, reason⟩ } report' _ w'
            htogether hplaced hnext
          rwa [Array.toList_push, List.append_assoc, List.singleton_append] at this
      | ok data =>
          have hfilter : (e :: rest).filter (fun e => (answer e).isOk) =
              e :: rest.filter fun e => (answer e).isOk :=
            List.filter_cons_of_pos (by rw [hanswer]; rfl)
          have hx := outcome_placeAll_place (vol.on (d.beside τ)) report rest (w := w)
            (Prod.ext ((hload e w.state.2).trans hanswer) rfl)
          have hy := outcome_placeAll_place (vol.on (d.beside τ)) report' (w := w')
            (rest.filter fun e => (answer e).isOk)
            (Prod.ext ((hload e w'.state.2).trans hanswer) rfl)
          have htogether : Coupling.unseen.together (World.traffic (World.loaded
              ⟨(w.state.1, (load e w.state.2).2), w.journal⟩ e))
              (World.traffic (World.loaded ⟨(w'.state.1, (load e w'.state.2).2), w'.journal⟩
                e)) := by
            rw [World.traffic_loaded, World.traffic_loaded]
            exact hw
          rw [EndAgreeing, hx, hfilter, hy, List.map_cons, hanswer, skipped_ok, ← hnext]
          refine ((alike_place Image.allows_true report.next e.name data).coupled
            (Coupling.joins_unseen hd hload) htogether).bind_agreeing ?_
          intro r w₂ w₂' h
          exact @ih { report with placed := report.placed.push r.1, next := r.2 }
            { report' with placed := report'.placed.push r.1, next := r.2 } w₂ w₂' h
            (by rw [hplaced]) rfl

theorem agree_runUnflushed {ρ : Type} (vol : Volume ρ) (hd : d.ReadsWhole)
    {answer : Entry → Except String ByteArray} (hload : ∀ e t, (load e t).1 = answer e)
    (w : World (σ × τ)) :
    EndAgreeing (skipped (m.entries.map fun e => (e, answer e))) []
      ((vol.on (d.beside τ)).runUnflushed m load.source)
      ((vol.on (d.beside τ)).runUnflushed (m.only fun e => (answer e).isOk) load.source)
      w w := by
  have hw : Coupling.unseen.together w.traffic w.traffic := ⟨rfl, rfl⟩
  refine ((alike_reset Image.allows_true).coupled (Coupling.joins_unseen hd hload)
    hw).bind_agreeing ?_
  intro _ w₁ w₁' h
  have hplaced : ({} : Report).placed = ({} : Report).placed := rfl
  rw [Manifest.entries_only]
  exact agree_placeAll vol hd hload m.entries h hplaced rfl

theorem agree_run {ρ : Type} (vol : Volume ρ) (hd : d.ReadsWhole)
    {answer : Entry → Except String ByteArray} (hload : ∀ e t, (load e t).1 = answer e)
    (w : World (σ × τ)) :
    EndAgreeing (skipped (m.entries.map fun e => (e, answer e))) []
      ((vol.on (d.beside τ)).run m load.source)
      ((vol.on (d.beside τ)).run (m.only fun e => (answer e).isOk) load.source) w w := by
  obtain ⟨r, w₁, r', w₁', hx, hy, h, hagree⟩ := agree_runUnflushed vol hd hload w
  cases Coupling.unseen_perform (d := d) .flush h with
  | first _ _ h => exact h.elim
  | both hflush hflush' h' =>
      exact ⟨_, _, _, _, outcome_run hx hflush, outcome_run hy hflush', h', hagree.bind _⟩

end Volume

/-- A run does to its device what the run over the entries that can be loaded does,
call by call, and answers the same, but for the entries that it skipped. -/
theorem fill_skipping (hd : d.ReadsWhole) (load : Loader τ)
    {answer : Entry → Except String ByteArray} (hload : ∀ e t, (load e t).1 = answer e)
    {s : σ} {t : τ} :
    ∃ r w r' w', (fill (d.beside τ) l m load.source).start (s, t) = (r, w) ∧
      (fill (d.beside τ) l (m.only fun e => (answer e).isOk) load.source).start (s, t) =
        (r', w') ∧
      w.calls = w'.calls ∧ w.state.1 = w'.state.1 ∧
      Agree (skipped (m.entries.map fun e => (e, answer e))) [] r r' := by
  rcases hmount : (Volume.mount (d.beside τ) l).start (s, t) with ⟨e | vol, w⟩
  · exact ⟨_, w, _, w, fill_of_not_mounted hmount, fill_of_not_mounted hmount,
      rfl, rfl, .error e⟩
  · obtain ⟨sectors, hmounted⟩ := Volume.ends_mounted.of_ok (v := ⟨(s, t), []⟩) rfl
      (Action.start_eq_ok.1 hmount)
    obtain ⟨r, w₁, r', w₁', hx, hy, ⟨hstate, hcalls⟩, hagree⟩ :=
      Volume.agree_run vol hd hload w
    rw [Volume.on_of_device hmounted.device] at hx hy
    exact ⟨r, w₁, r', w₁', (fill_outcome hmount).trans hx,
      (fill_outcome hmount).trans hy, hcalls, hstate, hagree⟩

theorem fill_skipping_bootDisk :
    ∃ r w r' w',
      (fill (((Device.memory 512).refusing (.once 18)).beside Unit) Layout.bootDisk
        ⟨[⟨1, ⟨.letterA, "a", none⟩⟩, ⟨2, ⟨.letterA, "b", none⟩⟩]⟩
        (Loader.source fun e t =>
          (if e.source = "a" then .error "gone" else .ok (Bytes.zeros 3), t))).start
        ((Bytes.zeros 3000320, 0), ()) = (r, w) ∧
      (fill (((Device.memory 512).refusing (.once 18)).beside Unit) Layout.bootDisk
        ⟨[⟨2, ⟨.letterA, "b", none⟩⟩]⟩
        (Loader.source fun e t =>
          (if e.source = "a" then .error "gone" else .ok (Bytes.zeros 3), t))).start
        ((Bytes.zeros 3000320, 0), ()) = (r', w') ∧
      w.calls = w'.calls ∧ w.state.1 = w'.state.1 ∧
      Agree [⟨.letterA, "a", "gone"⟩] [] r r' := by
  have hload : ∀ (e : Entry) (t : Unit),
      ((fun e t => (if e.source = "a" then .error "gone" else .ok (Bytes.zeros 3), t) :
        Loader Unit) e t).1 =
      (if e.source = "a" then .error "gone" else .ok (Bytes.zeros 3)) := fun _ _ => rfl
  exact fill_skipping ((Device.readsWhole_memory 512).refusing (.once 18)) _ hload

end FatImage
