import AvatarVault.Proofs.Upload.Records
import AvatarVault.Proofs.Upload.Run
/-!
Uploads side by side do not disturb each other (`uploads_isolated`).  Whatever the order of the
steps, an upload does what it does alone against the header that it drew and the replies that its
own calls got, a step of another upload leaves it as it is, and each payload that the host accepts
comes out as the success of one upload.
-/
namespace AvatarVault

variable {cipher : Aead} {p : Pipeline} {clock : Nat → UInt64} {f : Fleet} {t : Task} {i : Nat}
  {q : UploadRequest} {k : Track} {s : UploadSuccess} {e : Ending UploadSuccess}
  {requests : List UploadRequest}

namespace Entry

theorem value?_resolve (entry : Entry) (ending : Ending UploadSuccess) :
    (entry.resolve ending).value? = ending.value? := by
  unfold resolve
  cases entry.isSpawned with
  | false => rfl
  | true => cases ending <;> rfl

theorem eq_of_resolve_eq_exhausted {entry : Entry} {ending : Ending UploadSuccess}
    {attempts : Nat} {cause : TransportError}
    (h : entry.resolve ending = .failed (.exhaustedRetries attempts cause)) :
    ending = .failed (.exhaustedRetries attempts cause) := by
  unfold resolve at h
  cases spawned : entry.isSpawned with
  | false => simpa [spawned] using h
  | true =>
    cases ending with
    | succeeded s => simp [spawned, Ending.settle] at h
    | failed e => simpa [spawned, Ending.settle] using h
    | crashed => simp [spawned, Ending.settle] at h

end Entry

/-- When the upload last moved on. -/
def Track.moment? (k : Track) : Option Nat := k.task.map (·.moment)

/-- What it means that an upload is not disturbed by others. -/
structure Isolated (cipher : Aead) (p : Pipeline) (clock : Nat → UInt64) (q : UploadRequest)
    (k : Track) : Prop where
  /-- What it has done is the beginning of what it does alone with what it drew, whatever would
  come next. -/
  begun : ∀ header reply, k.calls <+: (q.alone cipher p clock (k.own header reply)).calls ∧
    k.records <+: (q.alone cipher p clock (k.own header reply)).recorded
  /-- When it is over, it has done and become just that. -/
  alone : ∀ e, k.resolved? q = some e → ∀ header reply,
    (q.alone cipher p clock (k.own header reply)).ending = e ∧
    (q.alone cipher p clock (k.own header reply)).calls = k.calls ∧
    (q.alone cipher p clock (k.own header reply)).recorded = k.records ∧
    k.moment? = some (q.alone cipher p clock (k.own header reply)).finish
  /-- Every call sends the one sealing of its own image, under its own key and header. -/
  sealed : ∀ call ∈ k.calls, ∃ key header avatar, q.entry.key = .ok key ∧ k.headers = [header] ∧
    sealAvatar cipher q.plaintext key header = .ok avatar ∧ call.payload = avatar.ciphertext
  /-- It makes no more calls than its own budget allows. -/
  bounded : k.calls.length ≤ max 1 (min p.policy.maxAttempts.toNat 4)
  /-- The attempts that it tells are its own calls. -/
  attempts : ∀ s, k.resolved? q = some (.succeeded s) → s.attempts = k.calls.length
  exhausted : k.calls ≠ [] → ∀ attempts cause,
    k.resolved? q = some (.failed (.exhaustedRetries attempts cause)) → attempts = k.calls.length
  /-- What the host accepts from it is what it resolves to, and nothing else is. -/
  accepted : ∀ e, k.resolved? q = some e → acceptedIds k.replies = (e.value?.map (·.id)).toList
  /-- A call that breaks down breaks the upload down, which is a failed worker on a task of its
  own. -/
  worker : (∃ reply ∈ k.replies, reply.answer = .crashed) → q.entry.isSpawned = true →
    ∀ e, k.resolved? q = some e → ∃ text, e = .failed (.worker text)

namespace Begun

/-- A call needs a header, and an upload draws one only. -/
theorem sealed_of_mem (begun : Begun cipher p clock q k t) {call : Call} (made : call ∈ k.calls) :
    ∃ key header avatar, q.entry.key = .ok key ∧ k.headers = [header] ∧
      sealAvatar cipher q.plaintext key header = .ok avatar ∧ call.payload = avatar.ciphertext := by
  obtain ⟨own, fed⟩ := k.exists_fed
  -- What it does alone takes one header.  After its first step it draws none, so the headers that
  -- it drew by now are that one.
  have moved : t.stage ≠ .fresh := by
    intro fresh
    rw [Track.calls, begun.fresh fresh] at made
    exact absurd made List.not_mem_nil
  have drawn : (q.task.rest cipher p clock own).resources.ivs = own.ivs.drop k.headers.length := by
    rw [begun.rest own fed]
    exact Task.rest_ivs moved _
  have made : call ∈ (q.task.rest cipher p clock own).calls := by
    rw [begun.rest own fed]
    exact List.mem_append_left _ made
  obtain ⟨key, avatar, given, sealed, payload, tail⟩ := Pipeline.sealed_of_mem_execute made
  have used : own.ivs.used + k.headers.length = own.ivs.used + 1 :=
    congrArg Supply.used (drawn.symm.trans tail)
  have one : k.headers.length = 1 := Nat.add_left_cancel used
  have header : k.headers = [own.ivs.head] := by
    rw [← fed.1, one]
    rfl
  exact ⟨key, own.ivs.head, avatar, given, header, sealed, payload⟩

theorem length_calls_le (begun : Begun cipher p clock q k t) :
    k.calls.length ≤ max 1 (min p.policy.maxAttempts.toNat 4) := by
  obtain ⟨own, fed⟩ := k.exists_fed
  have all : (q.task.rest cipher p clock own).calls.length
      ≤ max 1 (min p.policy.maxAttempts.toNat 4) :=
    Pipeline.length_calls_execute_le cipher p clock _ _ _ _ own
  rw [begun.rest own fed] at all
  exact Nat.le_trans (List.length_append ▸ Nat.le_add_right _ _) all

theorem isolated (begun : Begun cipher p clock q k t) : Isolated cipher p clock q k where
  begun header reply := by
    rw [q.alone_eq, begun.rest _ (k.fed_own header reply)]
    exact ⟨List.prefix_append _ _, List.prefix_append _ _⟩
  alone e closed header reply := by
    obtain ⟨ending, resolved, whole⟩ := begun.whole closed
    rw [q.alone_eq, whole _ (k.fed_own header reply), Track.moment?, begun.task]
    exact ⟨resolved.symm, rfl, rfl, rfl⟩
  sealed call made := begun.sealed_of_mem made
  bounded := begun.length_calls_le
  attempts s closed := by
    obtain ⟨ending, resolved, -, reported⟩ := begun.reported closed
    rw [k.length_calls]
    exact reported.attempts s (Entry.resolve_eq_succeeded_iff.mp resolved.symm)
  exhausted called attempts cause closed := by
    obtain ⟨ending, resolved, -, reported⟩ := begun.reported closed
    have answered : k.replies ≠ [] := by
      rw [← List.length_pos_iff, ← k.length_calls]
      exact List.length_pos_iff.mpr called
    rw [k.length_calls]
    exact reported.exhausted answered attempts cause
      (Entry.eq_of_resolve_eq_exhausted resolved.symm)
  accepted e closed := by
    obtain ⟨ending, rfl, -, reported⟩ := begun.reported closed
    rw [Entry.value?_resolve]
    exact reported.accepted
  worker broken spawned e closed := by
    obtain ⟨ending, rfl, -, reported⟩ := begun.reported closed
    rw [reported.crashed broken, Entry.resolve, if_pos spawned]
    exact ⟨_, rfl⟩

end Begun

/-- Two undisturbed uploads of one kind that drew the same do and become the same. -/
theorem Isolated.agree {k' : Track} {e' : Ending UploadSuccess}
    (isolated : Isolated cipher p clock q k) (isolated' : Isolated cipher p clock q k')
    (closed : k.resolved? q = some e) (closed' : k'.resolved? q = some e')
    (headers : k.headers = k'.headers) (replies : k.replies = k'.replies) :
    e = e' ∧ k.calls = k'.calls ∧ k.records = k'.records ∧ k.moment? = k'.moment? := by
  let header : Bytes 24 := ⟨replicateByte 24 0, size_replicateByte 24 0⟩
  have own : k.own header .unavailable = k'.own header .unavailable := by
    rw [Track.own, headers, replies, Track.own]
  obtain ⟨ending, calls, records, moment⟩ := isolated.alone e closed header .unavailable
  obtain ⟨ending', calls', records', moment'⟩ := isolated'.alone e' closed' header .unavailable
  rw [own] at ending calls records moment
  exact ⟨ending.symm.trans ending', calls.symm.trans calls', records.symm.trans records',
    moment.trans moment'.symm⟩

theorem isolated_follow (asked : requests[i]? = some q) (resources : Resources)
    (schedule : List Nat) :
    Isolated cipher p clock q
      (((Fleet.launch requests resources).follow cipher p clock schedule).track i) := by
  obtain ⟨t, begun⟩ := begun_follow asked resources schedule
  exact begun.isolated

namespace Fleet

/-- The payloads that the host accepted, each with the place of its upload and the name that it
got. -/
def acceptances (f : Fleet) : List (Nat × FileId) :=
  f.exchanges.filterMap fun e => e.reply.answer.id?.map fun id => (e.upload, id)

/-- The successes that came out, each with the place of its upload and the name that it tells. -/
def results (requests : List UploadRequest) (f : Fleet) : List (Nat × FileId) :=
  (List.range requests.length).filterMap fun i =>
    ((f.outcome? requests i).bind Ending.value?).map fun s => (i, s.id)

theorem perm_results (sized : f.Sized requests.length)
    (accepted : ∀ i e, f.outcome? requests i = some e →
      acceptedIds (f.track i).replies = (e.value?.map (·.id)).toList)
    (closed : ∀ i < requests.length, (f.outcome? requests i).isSome = true) :
    f.acceptances.Perm (f.results requests) := by
  let name (entry : Nat × Call × Reply) : Option (Nat × FileId) :=
    entry.2.2.answer.id?.map fun id => (entry.1, id)
  have all : f.acceptances = f.callLog.filterMap name := by
    rw [acceptances, callLog, List.filterMap_map]
    rfl
  have own : ∀ i ∈ List.range requests.length,
      ((entriesOf f.callLog i).map fun x => (i, x)).filterMap name =
        (((f.outcome? requests i).bind Ending.value?).map fun s => (i, s.id)).toList := by
    intro i mem
    obtain ⟨e, resolved⟩ := Option.isSome_iff_exists.mp (closed i (List.mem_range.mp mem))
    have names : ((entriesOf f.callLog i).map fun x => (i, x)).filterMap name
        = (acceptedIds (f.track i).replies).map fun id => (i, id) := by
      rw [acceptedIds, Track.replies, List.filterMap_map, List.filterMap_map, List.map_filterMap]
      rfl
    rw [names, accepted i e resolved, resolved, Option.bind_some]
    cases e.value? with
    | none => rfl
    | some s => rfl
  -- Sorted by upload, the log of calls holds for each upload the one name that its success tells.
  have parts := (perm_entriesOf sized.calls).filterMap name
  rw [List.filterMap_flatMap, List.flatMap_congr own] at parts
  rw [results, List.filterMap_eq_flatMap_toList, all]
  exact parts

end Fleet

/-- What it means that the uploads of a fleet do not disturb each other. -/
structure Fleet.KeepsApart (cipher : Aead) (p : Pipeline) (clock : Nat → UInt64)
    (requests : List UploadRequest) (f : Fleet) : Prop where
  /-- Each upload does and becomes what it does alone with what it drew. -/
  isolated : ∀ i q, requests[i]? = some q → Isolated cipher p clock q (f.track i)
  /-- A step of one upload, also one that finds it cancelled or broken down, changes nothing for the
  others. -/
  others : ∀ i j, i ≠ j → (f.advance cipher p clock j).track i = f.track i
  /-- An upload that draws the same header and gets the same replies among other uploads, with other
  cancellations and other breakdowns, does and becomes the same. -/
  agrees : ∀ (requests' : List UploadRequest) (resources' : Resources) (schedule' : List Nat)
    (i j : Nat), requests[i]? = requests'[j]? →
    let g := (Fleet.launch requests' resources').follow cipher p clock schedule'
    (f.outcome? requests i).isSome = true → (g.outcome? requests' j).isSome = true →
    (f.track i).headers = (g.track j).headers → (f.track i).replies = (g.track j).replies →
    f.outcome? requests i = g.outcome? requests' j ∧ (f.track i).calls = (g.track j).calls ∧
      (f.track i).records = (g.track j).records ∧ (f.track i).moment? = (g.track j).moment?
  /-- When all uploads are over, each payload that the host accepted has come out as the success of
  its upload, and no other success has. -/
  accepted : (∀ i < requests.length, (f.outcome? requests i).isSome = true) →
    f.acceptances.Perm (f.results requests)

/-- Uploads side by side on one pipeline, with one host, whatever the order of their steps, do not
disturb each other, and each that gets its steps comes to its end. -/
theorem uploads_isolated (cipher : Aead) (p : Pipeline) (clock : Nat → UInt64)
    (requests : List UploadRequest) (resources : Resources) (schedule : List Nat) :
    let f := (Fleet.launch requests resources).follow cipher p clock schedule
    Fleet.KeepsApart cipher p clock requests f ∧
      ∀ i < requests.length, Fleet.stepLimit p ≤ schedule.count i →
        (f.outcome? requests i).isSome = true := by
  intro f
  have isolated : ∀ i q, requests[i]? = some q → Isolated cipher p clock q (f.track i) :=
    fun i q asked => isolated_follow asked resources schedule
  refine ⟨⟨isolated, fun i j ne => Fleet.track_advance_of_ne ne, ?_, ?_⟩, ?_⟩
  · intro requests' resources' schedule' i j same g closed closed' headers replies
    obtain ⟨e, closed⟩ := Option.isSome_iff_exists.mp closed
    obtain ⟨e', closed'⟩ := Option.isSome_iff_exists.mp closed'
    rw [closed, closed']
    obtain ⟨q, asked, closed⟩ := Option.bind_eq_some_iff.mp closed
    rw [Fleet.outcome?, ← same, asked] at closed'
    have isolated' : Isolated cipher p clock q (g.track j) :=
      isolated_follow (same ▸ asked) resources' schedule'
    obtain ⟨rfl, rest⟩ := (isolated i q asked).agree isolated' closed closed' headers replies
    exact ⟨rfl, rest⟩
  · have accepted : ∀ i e, f.outcome? requests i = some e →
        acceptedIds (f.track i).replies = (e.value?.map (·.id)).toList := by
      intro i e resolved
      obtain ⟨q, asked, closed⟩ := Option.bind_eq_some_iff.mp resolved
      exact (isolated i q asked).accepted e closed
    exact Fleet.perm_results (Fleet.sized_follow requests resources schedule) accepted
  · intro i within steps
    have asked : requests[i]? = some requests[i] := List.getElem?_eq_getElem within
    rw [Fleet.outcome?, asked]
    exact resolved_of_count asked resources steps

/-- The breakdown of the last of three uploads is its own: the one before it gets what the host
accepted from it. -/
theorem uploads_isolated_from_breakdown :
    let f := exampleFleet XChaCha20Poly1305.aead
    Fleet.KeepsApart XChaCha20Poly1305.aead Pipeline.examplePipeline (fun _ => 0)
        exampleRequests f ∧
      f.outcome? exampleRequests 2 = some (.failed (.worker "task panicked")) ∧
      f.acceptances = [(1, .ofNat 7)] := by
  intro f
  obtain ⟨apart, -⟩ :=
    uploads_isolated XChaCha20Poly1305.aead Pipeline.examplePipeline (fun _ => 0)
      exampleRequests sharedResources exampleSchedule
  obtain ⟨s, named, refused, stored, broken⟩ := outcomes_exampleFleet xchacha_lawful.toSeals
  have closed : ∀ i < exampleRequests.length, (f.outcome? exampleRequests i).isSome = true
    | 0, _ => refused ▸ rfl
    | 1, _ => stored ▸ rfl
    | 2, _ => broken ▸ rfl
  have one : f.results exampleRequests = [(1, .ofNat 7)] := by
    have three : List.range exampleRequests.length = [0, 1, 2] := rfl
    simp [Fleet.results, three, f, refused, stored, broken, Ending.value?, named]
  refine ⟨apart, broken, ?_⟩
  have same : f.acceptances.Perm (f.results exampleRequests) := apart.accepted closed
  rw [one] at same
  exact List.perm_singleton.mp same

end AvatarVault
