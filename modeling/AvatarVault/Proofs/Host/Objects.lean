import AvatarVault.Host.Memory
import AvatarVault.Proofs.Text.Hex
import AvatarVault.Proofs.Upload.Configured
/-!
What a host that keeps objects in memory has after any uploads, with writes of others between them.
A write changes what is read at its own place and nowhere else (`FileHost.read?_insert`), so an
object stays as long as nothing writes where it is (`FileHost.read?_run_of_ne`).  Names drawn for
uploads lead to places that nothing else writes, and an uploaded file is found there ever after,
also by the address that an upload returns (`uploads_kept`).
-/
namespace AvatarVault

/-! ## Drawn names -/

theorem FileId.length_ofRandom (drawn : Bytes 16) :
    (FileId.ofRandom drawn).text.toList.length = 32 := by
  rw [FileId.ofRandom, Hex.toList_encode, Hex.length_flatMap_digits, Array.length_toList,
    ByteArray.size_data, ByteArray.size_set!, ByteArray.size_set!, drawn.property]

theorem FileId.mem_ofRandom {drawn : Bytes 16} {c : Char}
    (h : c ∈ (FileId.ofRandom drawn).text.toList) : c ∈ hexDigits := Hex.mem_encode h

/-- A name is known by the place of its file. -/
theorem objectPath_inj {a b : FileId} (h : objectPath a = objectPath b) : a = b := by
  cases a
  cases b
  simpa [objectPath] using h

/-- The file of a drawn name is right in the directory of uploaded files. -/
theorem isUploaded_objectPath (drawn : Bytes 16) :
    FileHost.isUploaded (objectPath (.ofRandom drawn)) = true := by
  have path : (objectPath (.ofRandom drawn)).toList
      = FileHost.filesStart.toList ++ (FileId.ofRandom drawn).text.toList := by
    rw [objectPath, String.toList_append]
    rfl
  have plain : (FileId.ofRandom drawn).text.toList.contains '/' = false := by
    rw [List.contains_eq_mem, decide_eq_false]
    intro slash
    exact absurd (FileId.mem_ofRandom slash) (by decide)
  rw [FileHost.isUploaded, path, List.drop_left, plain]
  simp

/-! ## What a write changes -/

/-- What is done to a host: an upload, with the bytes drawn for its name, or a write of another. -/
inductive HostEvent where
  | upload (drawn : Bytes 16) (payload : ByteArray)
  | put (path : String) (payload : ByteArray)

/-- The name drawn for an upload. -/
def HostEvent.name? : HostEvent → Option FileId
  | upload drawn _ => some (.ofRandom drawn)
  | put _ _ => none

/-- The place that is written, where the path is that of an object. -/
def HostEvent.place? : HostEvent → Option String
  | upload drawn _ => some (objectPath (.ofRandom drawn))
  | put path _ => FileHost.objectPath? path

namespace FileHost

/-- The host after an event. -/
def take (h : FileHost) : HostEvent → FileHost
  | .upload drawn payload => (h.upload (.ofRandom drawn) payload).2
  | .put path payload => (h.put path payload).2

/-- The host after events, one after another. -/
def run (h : FileHost) (events : List HostEvent) : FileHost := events.foldl take h

variable {h : FileHost} {path place : String} {payload : ByteArray} {drawn : Bytes 16}
  {events : List HostEvent} {e : HostEvent}

theorem run_split (front back : List HostEvent) :
    h.run (front ++ e :: back) = ((h.run front).take e).run back := by
  rw [run, List.foldl_append, List.foldl_cons]
  rfl

/-- A write changes what is read at its own place and nowhere else. -/
theorem read?_insert :
    (h.insert place payload).read? path = if path = place then some payload else h.read? path := by
  rw [insert, read?, read?, List.find?_cons, List.find?_filter]
  by_cases same : path = place
  · rw [if_pos same, same]
    simp
  · have other : (place == path) = false := by simpa using Ne.symm same
    have search : (fun entry : String × ByteArray =>
          decide ((entry.1 != place) = true ∧ (entry.1 == path) = true))
        = fun entry => entry.1 == path := by
      funext entry
      by_cases found : entry.1 = path
      · simp [found, same]
      · simp [found]
    rw [if_neg same, other, search]

theorem read?_eq_none_iff : h.read? path = none ↔ ∀ entry ∈ h.objects, entry.1 ≠ path := by
  simp [read?]

/-- Where there is no object, a write adds one and takes none away. -/
theorem objects_insert_of_absent (absent : h.read? path = none) :
    (h.insert path payload).objects = (path, payload) :: h.objects := by
  have kept : h.objects.filter (fun entry => entry.1 != path) = h.objects := by
    refine List.filter_eq_self.mpr fun entry mem => ?_
    simpa using read?_eq_none_iff.mp absent entry mem
  rw [insert, kept]

/-- An upload to a host that takes writes is told its name, and is written where that leads. -/
theorem upload_of_open (isOpen : h.isOpen = true) (name : FileId) :
    h.upload name payload = (.ok name, h.insert (objectPath name) payload) := by
  rw [upload, if_pos isOpen]

theorem isOpen_take : (h.take e).isOpen = h.isOpen := by
  cases e with
  | upload drawn payload =>
    rw [take, upload]
    split <;> rfl
  | put path payload =>
    rw [take, put]
    split
    · split <;> rfl
    · rfl

theorem isOpen_run : (h.run events).isOpen = h.isOpen := by
  induction events generalizing h with
  | nil => rfl
  | cons e events ih => exact (ih (h := h.take e)).trans isOpen_take

/-- An event changes nothing where it does not write. -/
theorem read?_take_of_ne (ne : e.place? ≠ some path) : (h.take e).read? path = h.read? path := by
  cases e with
  | upload drawn payload =>
    rw [take, upload]
    split
    · rw [read?_insert, if_neg]
      rintro rfl
      exact ne rfl
    · rfl
  | put other payload =>
    rw [take, put]
    split
    · rename_i place found
      split
      · rw [read?_insert, if_neg]
        rintro rfl
        exact ne found
      · rfl
    · rfl

/-- What is read at a place stays as long as nothing writes there. -/
theorem read?_run_of_ne (ne : ∀ e ∈ events, e.place? ≠ some path) :
    (h.run events).read? path = h.read? path := by
  induction events generalizing h with
  | nil => rfl
  | cons e events ih =>
    have rest := ih (h := h.take e) fun e' mem => ne e' (List.mem_cons_of_mem _ mem)
    exact rest.trans (read?_take_of_ne (ne e List.mem_cons_self))

/-- An upload to a place without an object makes one uploaded file more. -/
theorem count_insert_of_absent (absent : h.read? (objectPath (.ofRandom drawn)) = none) :
    (h.insert (objectPath (.ofRandom drawn)) payload).count = h.count + 1 := by
  rw [count, objects_insert_of_absent absent, List.filter_cons,
    if_pos (isUploaded_objectPath drawn), List.length_cons, count]

end FileHost

/-! ## Uploads and other writes in any order -/

/-- The names that are drawn for uploads. -/
def drawnNames (events : List HostEvent) : List FileId := events.filterMap HostEvent.name?

/-- The names that are drawn are pairwise different, no object that the host has is under one of
them, and no one else writes where they lead. -/
structure Unclaimed (h : FileHost) (events : List HostEvent) : Prop where
  distinct : (drawnNames events).Nodup
  absent : ∀ name ∈ drawnNames events, h.read? (objectPath name) = none
  elsewhere : ∀ path payload, HostEvent.put path payload ∈ events →
    ∀ name ∈ drawnNames events, FileHost.objectPath? path ≠ some (objectPath name)

section Runs

variable {h : FileHost} {front back : List HostEvent} {drawn : Bytes 16} {payload : ByteArray}

theorem drawnNames_split : drawnNames (front ++ .upload drawn payload :: back)
    = drawnNames front ++ .ofRandom drawn :: drawnNames back := by
  rw [drawnNames, List.filterMap_append, List.filterMap_cons]
  rfl

theorem Unclaimed.new (free : Unclaimed h (front ++ .upload drawn payload :: back)) :
    FileId.ofRandom drawn ∉ drawnNames front ∧ FileId.ofRandom drawn ∉ drawnNames back := by
  have distinct := free.distinct
  rw [drawnNames_split, List.nodup_append, List.nodup_cons] at distinct
  obtain ⟨-, ⟨later, -⟩, apart⟩ := distinct
  exact ⟨fun earlier => apart _ earlier _ List.mem_cons_self rfl, later⟩

/-- Nothing else writes where an upload does. -/
theorem Unclaimed.place_ne (free : Unclaimed h (front ++ .upload drawn payload :: back))
    {e : HostEvent} (mem : e ∈ front ∨ e ∈ back) :
    e.place? ≠ some (objectPath (.ofRandom drawn)) := by
  have among : e ∈ front ++ .upload drawn payload :: back := by
    rcases mem with early | late
    · exact List.mem_append_left _ early
    · exact List.mem_append_right _ (List.mem_cons_of_mem _ late)
  cases e with
  | upload other content =>
    intro same
    have name : FileId.ofRandom other = FileId.ofRandom drawn :=
      objectPath_inj (Option.some.inj same)
    rcases mem with early | late
    · refine free.new.1 (List.mem_filterMap.mpr ⟨_, early, ?_⟩)
      rw [HostEvent.name?, name]
    · refine free.new.2 (List.mem_filterMap.mpr ⟨_, late, ?_⟩)
      rw [HostEvent.name?, name]
  | put path content =>
    refine free.elsewhere path content among _ ?_
    rw [drawnNames_split]
    exact List.mem_append_right _ List.mem_cons_self

/-- There is no object where an upload is about to write. -/
theorem Unclaimed.absent_before (free : Unclaimed h (front ++ .upload drawn payload :: back)) :
    (h.run front).read? (objectPath (.ofRandom drawn)) = none := by
  rw [FileHost.read?_run_of_ne fun e mem => free.place_ne (Or.inl mem)]
  refine free.absent _ ?_
  rw [drawnNames_split]
  exact List.mem_append_right _ List.mem_cons_self

end Runs

/-- The answer of the host to a call, as the upload gets it. -/
def Answer.ofUpload : Except TransportError FileId → Answer
  | .ok id => .accepted id
  | .error cause => .refused cause

/-- What is read at a path opens to a plaintext. -/
def FileHost.OpensTo (h : FileHost) (path : String) (cipher : Aead) (key : ProfileKey)
    (plaintext : ByteArray) : Prop :=
  ∃ stored, h.read? path = some stored ∧ openAvatar cipher stored key = .ok plaintext

/-- What an upload does to a host, and what becomes of its file over the events after it. -/
structure KeptUpload (before after : FileHost) (name : FileId) (payload : ByteArray)
    (earlier : List FileId) (back : List HostEvent) : Prop where
  /-- The name is told, 32 digits that no upload was told before. -/
  told : before.upload name payload = (.ok name, after)
  length : name.text.toList.length = 32
  digits : ∀ c ∈ name.text.toList, c ∈ hexDigits
  new : name ∉ earlier
  /-- One object is added, in the directory of uploaded files, and no other is touched. -/
  added : after.objects = (objectPath name, payload) :: before.objects
  counted : after.count = before.count + 1
  others : ∀ path, path ≠ objectPath name → after.read? path = before.read? path
  /-- From then on, the payload is read there. -/
  kept : ∀ later, later <+: back → (after.run later).read? (objectPath name) = some payload
  /-- The address of the file is the base with the place of the object behind it. -/
  address : ∀ base, fileUrl base name = base ++ "/" ++ objectPath name
  /-- A sealed avatar that is read there opens. -/
  opens : ∀ {cipher : Aead}, cipher.Seals segmentSize → cipher.Opens →
    ∀ {plaintext : ByteArray} {key : ProfileKey} {iv : Bytes 24} {avatar : SealedAvatar},
      plaintext.size < 2 ^ 63 → sealAvatar cipher plaintext key iv = .ok avatar →
      payload = avatar.ciphertext → ∀ later, later <+: back →
        (after.run later).OpensTo (objectPath name) cipher key plaintext
  /-- Where this was the call that an upload of an image succeeded with, the one address that is
  recorded is that of the object, which opens to the image. -/
  delivered : ∀ {cipher : Aead}, cipher.Seals segmentSize → cipher.Opens →
    ∀ (p : Pipeline) (clock : Nat → UInt64) {plaintext : ByteArray}, plaintext.size < 2 ^ 63 →
    ∀ (entry : Entry) (start : Nat) (cancellation : Cancellation) (resources : Resources)
      {s : UploadSuccess},
      let r := p.enter cipher clock plaintext start cancellation resources entry
      r.ending = .succeeded s →
      (∀ call, r.calls.getLast? = some call → call.payload = payload) →
      (resources.replies.ahead (r.calls.length - 1)).answer
        = .ofUpload (before.upload name payload).1 →
      s.id = name ∧ s.url = p.baseUrl ++ "/" ++ objectPath name ∧
        r.recorded.map (·.url) = [p.baseUrl ++ "/" ++ objectPath name] ∧
        ∃ key, entry.key = .ok key ∧ ∀ later, later <+: back →
          (after.run later).OpensTo (objectPath name) cipher key plaintext

/-- A sealed avatar opens to its plaintext. -/
theorem openAvatar_of_sealed {cipher : Aead} (seals : cipher.Seals segmentSize)
    (opens : cipher.Opens) {plaintext : ByteArray} {key : ProfileKey} {iv : Bytes 24}
    {avatar : SealedAvatar} (size : plaintext.size < 2 ^ 63)
    (made : sealAvatar cipher plaintext key iv = .ok avatar) :
    openAvatar cipher avatar.ciphertext key = .ok plaintext := by
  obtain ⟨segments, sealing, rfl⟩ := sealing_of_sealAvatar seals (sealedSize_lt size) made
  exact openAvatar_of_sealing seals opens sealing

/-- What an upload of an image says that succeeded with the answer `name` to its last call. -/
theorem Pipeline.enter_of_last_answer {cipher : Aead} (seals : cipher.Seals segmentSize)
    (opens : cipher.Opens) (p : Pipeline) (clock : Nat → UInt64) {plaintext : ByteArray}
    (size : plaintext.size < 2 ^ 63) (entry : Entry) (start : Nat) (cancellation : Cancellation)
    (resources : Resources) {s : UploadSuccess} {payload : ByteArray} {name : FileId} :
    let r := p.enter cipher clock plaintext start cancellation resources entry
    r.ending = .succeeded s →
    (∀ call, r.calls.getLast? = some call → call.payload = payload) →
    (resources.replies.ahead (r.calls.length - 1)).answer = .accepted name →
    s.id = name ∧ s.url = p.baseUrl ++ "/" ++ objectPath name ∧
      r.recorded.map (·.url) = [p.baseUrl ++ "/" ++ objectPath name] ∧
      ∃ key, entry.key = .ok key ∧ openAvatar cipher payload key = .ok plaintext := by
  intro r ended last answer
  have run : r = p.execute cipher clock plaintext entry.key start cancellation resources :=
    enter_eq_of_succeeded ended
  rw [run] at ended last answer ⊢
  obtain ⟨key, avatar, given, delivered⟩ := delivered_of_execute seals opens size ended
  obtain ⟨n, length, accepted⟩ := delivered.answer
  rw [length, Nat.add_sub_cancel, Supply.ahead, accepted, Answer.accepted.injEq] at answer
  have url : s.url = p.baseUrl ++ "/" ++ objectPath name := by
    rw [execute_addresses.1 s ended, answer]
    rfl
  have sent : avatar.ciphertext = payload := by
    have made : (p.execute cipher clock plaintext entry.key start cancellation
        resources).calls ≠ [] := List.ne_nil_of_length_eq_add_one length
    have call := List.getLast?_eq_some_getLast made
    exact (delivered.payload _ (List.mem_of_getLast? call)).symm.trans (last _ call)
  refine ⟨answer, url, ?_, key, given, sent ▸ delivered.opens⟩
  rw [execute_recorded, ended, records, List.map_singleton, UploadSuccess.metadata, url]

/-- **Uploads are kept.**  Over a host that takes writes, with uploads and writes of others in any
order, under names that no one else claims: what each upload does, at its place in the order. -/
theorem uploads_kept {h : FileHost} (isOpen : h.isOpen = true) {front back : List HostEvent}
    {drawn : Bytes 16} {payload : ByteArray}
    (free : Unclaimed h (front ++ .upload drawn payload :: back)) :
    KeptUpload (h.run front) ((h.run front).take (.upload drawn payload)) (.ofRandom drawn) payload
      (drawnNames front) back := by
  have told : (h.run front).upload (.ofRandom drawn) payload
      = (.ok (.ofRandom drawn), (h.run front).insert (objectPath (.ofRandom drawn)) payload) :=
    FileHost.upload_of_open (FileHost.isOpen_run.trans isOpen) _
  have after : (h.run front).take (.upload drawn payload)
      = (h.run front).insert (objectPath (.ofRandom drawn)) payload := congrArg Prod.snd told
  have absent := free.absent_before
  have kept (later : List HostEvent) (ahead : later <+: back) :
      (((h.run front).take (.upload drawn payload)).run later).read? (objectPath (.ofRandom drawn))
        = some payload := by
    rw [FileHost.read?_run_of_ne fun e mem => free.place_ne (Or.inr (ahead.subset mem)), after,
      FileHost.read?_insert, if_pos rfl]
  exact
    { told := by rw [told, after]
      length := FileId.length_ofRandom drawn
      digits := fun c => FileId.mem_ofRandom
      new := free.new.1
      added := by rw [after, FileHost.objects_insert_of_absent absent]
      counted := by rw [after, FileHost.count_insert_of_absent absent]
      others := fun path other => by rw [after, FileHost.read?_insert, if_neg other]
      kept
      address := fun base => fileUrl_eq_address base _
      opens := fun seals opens _ _ _ _ size made sent later ahead =>
        ⟨payload, kept later ahead, sent ▸ openAvatar_of_sealed seals opens size made⟩
      delivered := fun seals opens p clock _ size entry start cancellation resources _ ended last
          answer => by
        rw [told] at answer
        obtain ⟨id, url, recorded, key, given, opened⟩ :=
          p.enter_of_last_answer seals opens clock size entry start cancellation resources ended
            last answer
        exact ⟨id, url, recorded, key, given, fun later ahead =>
          ⟨payload, kept later ahead, opened⟩⟩ }

/-- A host with a file that others have put there. -/
def exampleHost : FileHost := { objects := [("files/older", ⟨#[1]⟩)] }

/-- The name drawn from nothing but zeros. -/
def exampleDrawn : Bytes 16 := ⟨replicateByte 16 0, size_replicateByte ..⟩

/-- What comes after that: another upload, and a write of others in place of their own file. -/
def exampleBack : List HostEvent :=
  [.upload ⟨replicateByte 16 255, size_replicateByte ..⟩ ⟨#[3]⟩, .put "files/older" ⟨#[4]⟩]

/-- An upload between writes of others and another upload. -/
def exampleEvents (payload : ByteArray) : List HostEvent :=
  [.put " /notes//list.txt " ⟨#[2]⟩] ++ .upload exampleDrawn payload :: exampleBack

theorem unclaimed_exampleEvents (payload : ByteArray) :
    Unclaimed exampleHost (exampleEvents payload) where
  distinct := by
    have names : (drawnNames (exampleEvents ⟨#[]⟩)).Nodup := by decide +kernel
    exact names
  absent := by
    have free : ∀ name ∈ drawnNames (exampleEvents ⟨#[]⟩),
        exampleHost.read? (objectPath name) = none := by decide +kernel
    exact free
  elsewhere path content mem := by
    have apart : ∀ place ∈ [" /notes//list.txt ", "files/older"],
        ∀ name ∈ drawnNames (exampleEvents ⟨#[]⟩),
          FileHost.objectPath? place ≠ some (objectPath name) := by decide +kernel
    refine apart path ?_
    simp [exampleEvents, exampleBack] at mem
    rcases mem with ⟨rfl, -⟩ | ⟨rfl, -⟩ <;> simp

/-- An upload whose calls this host answers. -/
def exampleUse : Resources :=
  { ivs := { item := fun _ => exampleHeader }
    replies := { item := fun _ => { answer := .accepted (.ofRandom exampleDrawn) } } }

theorem send_exampleUse (p : Pipeline) (avatar : SealedAvatar) :
    (p.send avatar 0 none exampleUse.replies).ending
      = .succeeded { id := .ofRandom exampleDrawn, attempts := 1 } := by
  simp [Pipeline.send, uploadWithRetries, retryFrom, exampleUse, Supply.head, Cancellation.isDue]

/-- An image that is uploaded between writes of others, and found afterwards where the record says
that it is. -/
theorem uploads_kept_beside_others :
    exampleHost.isOpen = true ∧ ∃ (payload : ByteArray) (s : UploadSuccess),
      Unclaimed exampleHost (exampleEvents payload) ∧
      (Pipeline.examplePipeline.enter XChaCha20Poly1305.aead (fun _ => 0) (replicateByte 65537 1) 0
        none exampleUse (.withAnswer (.ok exampleKey))).ending = .succeeded s ∧
      s.url = "https://avatars.example//files/00000000000040008000000000000000" ∧
      (exampleHost.run (exampleEvents payload)).OpensTo "files/00000000000040008000000000000000"
        XChaCha20Poly1305.aead exampleKey (replicateByte 65537 1) := by
  have laws := xchacha_lawful
  have size : (replicateByte 65537 1).size < 2 ^ 63 := by
    rw [size_replicateByte]
    decide
  have filled : (replicateByte 65537 1).isEmpty = false := by
    rw [ByteArray.isEmpty, size_replicateByte]
    decide
  obtain ⟨segments, -, made⟩ := exists_sealed laws.toSeals (replicateByte 65537 1) exampleKey
    exampleHeader (sealedSize_lt size)
  obtain ⟨s, executed⟩ : ∃ s, (Pipeline.examplePipeline.execute XChaCha20Poly1305.aead (fun _ => 0)
      (replicateByte 65537 1) (.ok exampleKey) 0 none exampleUse).ending = .succeeded s := by
    rw [Pipeline.execute_of_sealed filled made]
    dsimp only
    exact ⟨_, Pipeline.conclude_eq_succeeded_iff.mpr ⟨_, send_exampleUse _ _, rfl⟩⟩
  have ended : (Pipeline.examplePipeline.enter XChaCha20Poly1305.aead (fun _ => 0)
      (replicateByte 65537 1) 0 none exampleUse (.withAnswer (.ok exampleKey))).ending
      = .succeeded s := Pipeline.enter_ending_of_succeeded executed
  have place : objectPath (.ofRandom exampleDrawn) = "files/00000000000040008000000000000000" := by
    decide +kernel
  have free := unclaimed_exampleEvents (exampleHeader.val ++ joined segments)
  have kept := uploads_kept (h := exampleHost) rfl free
  have answer (k : Nat) : (exampleUse.replies.ahead k).answer
      = .accepted (.ofRandom exampleDrawn) := rfl
  have sent := kept.delivered laws.toSeals laws.toOpens Pipeline.examplePipeline (fun _ => 0) size
    (.withAnswer (.ok exampleKey)) 0 none exampleUse ended fun call last => by
      rw [(Pipeline.enter_made _).1] at last
      obtain ⟨k, avatar, same, sealed, sent, -⟩ :=
        Pipeline.sealed_of_mem_execute (List.mem_of_getLast? last)
      obtain rfl : exampleKey = k := Except.ok.inj same
      rw [sent, Except.ok.inj (sealed.symm.trans made)]
  rw [kept.told, answer] at sent
  obtain ⟨-, url, -, key, given, opened⟩ := sent rfl
  obtain rfl : exampleKey = key := Except.ok.inj given
  rw [place] at url opened
  refine ⟨rfl, exampleHeader.val ++ joined segments, s, free, ended, ?_, ?_⟩
  · rw [url]
    decide +kernel
  · rw [exampleEvents, FileHost.run_split]
    exact opened _ (List.prefix_refl _)

end AvatarVault
