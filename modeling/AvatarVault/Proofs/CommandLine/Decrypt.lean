import AvatarVault.Proofs.CommandLine.Steps
/-!
Decrypting is all or nothing.  Four things have to hold for an image to come out of a file
(`Unlocks`), and the first one that does not is what is told (`Refused`).  Only then is the file
system touched: the directories on the way to the image are made and the image is written as a
whole (`decrypt_all_or_nothing`).
-/
namespace AvatarVault.CommandLine

open FileSystem

variable {cipher : Aead} {fs fs' : FileSystem} {source output : Path} {key : String}
  {digest : Option String} {content plaintext : ByteArray} {messages : List String}

/-! ## What has to hold -/

/-- Whether a digest, if one is given, is that of the content. -/
def Vouches (digest : Option String) (content : ByteArray) : Prop :=
  ∀ text, digest = some text → Digest.ofHex text = .ok (Digest.of content)

/-- Whether the file can be read, has the digest that is given, and opens to the image with the key
that is given. -/
def Unlocks (cipher : Aead) (fs : FileSystem) (source : Path) (key : String)
    (digest : Option String) (plaintext : ByteArray) : Prop :=
  ∃ content k, fs.read source = .ok content ∧ Vouches digest content ∧
    ProfileKey.ofBase64 key = .ok k ∧ openAvatar cipher content k = .ok plaintext

/-- What is told of the first thing that does not hold. -/
inductive Refused (cipher : Aead) (fs : FileSystem) (source : Path) (key : String)
    (digest : Option String) : List String → Prop where
  | unread {e : FileError} (failed : fs.read source = .error e) :
    Refused cipher fs source key digest ["reading sealed avatar: " ++ source.display]
  | noDigest {content : ByteArray} {text : String} {e : DigestFailure}
    (read : fs.read source = .ok content) (given : digest = some text)
    (failed : Digest.ofHex text = .error e) :
    Refused cipher fs source key digest [(e.toUploadError text).message]
  | otherDigest {content : ByteArray} {text : String} {expected : Digest}
    (read : fs.read source = .ok content) (given : digest = some text)
    (named : Digest.ofHex text = .ok expected) (failed : expected ≠ Digest.of content) :
    Refused cipher fs source key digest
      ["digest mismatch: expected " ++ expected.toHex ++ ", file hashes to "
        ++ (Digest.of content).toHex]
  | noKey {content : ByteArray} {e : KeyFailure} (read : fs.read source = .ok content)
    (vouched : Vouches digest content) (failed : ProfileKey.ofBase64 key = .error e) :
    Refused cipher fs source key digest [e.toUploadError.message]
  | unopened {content : ByteArray} {k : ProfileKey} {e : OpenFailure}
    (read : fs.read source = .ok content) (vouched : Vouches digest content)
    (given : ProfileKey.ofBase64 key = .ok k) (failed : openAvatar cipher content k = .error e) :
    Refused cipher fs source key digest
      ["opening sealed avatar: " ++ source.display, e.toUploadError.message]

/-- Where something does not hold, no image comes out. -/
theorem Refused.not_unlocks (refused : Refused cipher fs source key digest messages) :
    ¬ Unlocks cipher fs source key digest plaintext := by
  rintro ⟨content, k, read, vouched, given, opened⟩
  cases refused with
  | unread failed => cases failed.symm.trans read
  | noDigest read' given' failed => cases failed.symm.trans (vouched _ given')
  | otherDigest read' given' named failed =>
    obtain rfl := Except.ok.inj (read'.symm.trans read)
    exact failed (Except.ok.inj (named.symm.trans (vouched _ given')))
  | noKey read' vouched' failed => cases failed.symm.trans given
  | unopened read' vouched' given' failed =>
    obtain rfl := Except.ok.inj (read'.symm.trans read)
    obtain rfl := Except.ok.inj (given'.symm.trans given)
    cases failed.symm.trans opened

/-- Only the first thing that does not hold is told. -/
theorem Refused.unique {messages' : List String}
    (h : Refused cipher fs source key digest messages)
    (h' : Refused cipher fs source key digest messages') : messages = messages' := by
  cases h <;> cases h' <;> grind [Vouches]

theorem Unlocks.unique {other : ByteArray} (h : Unlocks cipher fs source key digest plaintext)
    (h' : Unlocks cipher fs source key digest other) : plaintext = other := by
  obtain ⟨content, k, read, -, given, opened⟩ := h
  obtain ⟨content', k', read', -, given', opened'⟩ := h'
  obtain rfl := Except.ok.inj (read.symm.trans read')
  obtain rfl := Except.ok.inj (given.symm.trans given')
  exact Except.ok.inj (opened.symm.trans opened')

/-! ## The steps -/

/-- Writing the image, the last part of decrypting. -/
def saveImage (output : Path) (plaintext : ByteArray) : Step (StateM FileSystem) String := do
  if let some parent := output.parent? then
    orFail (fun _ => ["creating output dir: " ++ parent.display])
      (FileAccess.makeDirectories parent)
  orFail (fun _ => ["writing avatar: " ++ output.display]) (FileAccess.write output plaintext)
  return s!"decrypted {plaintext.size} bytes → " ++ output.display ++ "\n"

/-- Opening the content of the file and writing the image. -/
def openAndSave (cipher : Aead) (source output : Path) (key : String) (content : ByteArray) :
    Step (StateM FileSystem) String := do
  let key ← demand (fun (e : KeyFailure) => [e.toUploadError.message]) (ProfileKey.ofBase64 key)
  let plaintext ← demand
    (fun (e : OpenFailure) =>
      ["opening sealed avatar: " ++ source.display, e.toUploadError.message])
    (openAvatar cipher content key)
  saveImage output plaintext

/-- The digest vouches for the content, or what is told says how it does not. -/
theorem checkDigest_cases (fs : FileSystem) (content : ByteArray) (text : String) :
    (Digest.ofHex text = .ok (Digest.of content) ∧
      on (checkDigest content text) fs = (.ok (), fs)) ∨
    (∃ e, Digest.ofHex text = .error e ∧
      on (checkDigest content text) fs = (.error (.told [(e.toUploadError text).message]), fs)) ∨
    ∃ expected, Digest.ofHex text = .ok expected ∧ expected ≠ Digest.of content ∧
      on (checkDigest content text) fs = (.error (.told
        ["digest mismatch: expected " ++ expected.toHex ++ ", file hashes to "
          ++ (Digest.of content).toHex]), fs) := by
  unfold checkDigest
  cases named : Digest.ofHex text with
  | error e => exact .inr (.inl ⟨e, rfl, bind_error (demand_error _ _ _)⟩)
  | ok expected =>
    rw [bind_ok (demand_ok _ _ _)]
    by_cases same : expected = Digest.of content
    · subst same
      have verified : (Digest.of content).verifies content = true := decide_eq_true rfl
      refine .inl ⟨rfl, ?_⟩
      rw [verified]
      rfl
    · have unverified : expected.verifies content = false :=
        decide_eq_false fun equal => same equal.symm
      refine .inr (.inr ⟨expected, rfl, same, ?_⟩)
      rw [unverified]
      rfl

theorem openAndSave_cases (read : fs.read source = .ok content)
    (vouched : Vouches digest content) :
    (∃ messages, Refused cipher fs source key digest messages ∧
      on (openAndSave cipher source output key content) fs = (.error (.told messages), fs)) ∨
    ∃ plaintext, Unlocks cipher fs source key digest plaintext ∧
      on (openAndSave cipher source output key content) fs
        = on (saveImage output plaintext) fs := by
  unfold openAndSave
  cases given : ProfileKey.ofBase64 key with
  | error e =>
    exact .inl ⟨_, .noKey read vouched given, bind_error (demand_error _ _ _)⟩
  | ok k =>
    rw [bind_ok (demand_ok _ _ _)]
    cases opened : openAvatar cipher content k with
    | error e =>
      exact .inl ⟨_, .unopened read vouched given opened, bind_error (demand_error _ _ _)⟩
    | ok plaintext =>
      exact .inr ⟨plaintext, ⟨content, k, read, vouched, given, opened⟩,
        bind_ok (demand_ok _ _ _)⟩

/-- Before the image is written the file system stays as it is. -/
theorem decrypt_cases (cipher : Aead) (fs : FileSystem) (source output : Path) (key : String)
    (digest : Option String) :
    (∃ messages, Refused cipher fs source key digest messages ∧
      on (decrypt cipher source output key digest) fs = (.error (.told messages), fs)) ∨
    ∃ plaintext, Unlocks cipher fs source key digest plaintext ∧
      on (decrypt cipher source output key digest) fs = on (saveImage output plaintext) fs := by
  unfold decrypt
  cases read : fs.read source with
  | error e =>
    have failed : (FileAccess.read source : StateM FileSystem _) fs = (.error e, fs) :=
      congrArg (·, fs) read
    exact .inl ⟨_, .unread read, bind_error (orFail_error failed)⟩
  | ok content =>
    have went_well : (FileAccess.read source : StateM FileSystem _) fs = (.ok content, fs) :=
      congrArg (·, fs) read
    rw [bind_ok (orFail_ok went_well)]
    cases digest with
    | none =>
      have vouched : Vouches none content := fun text given => by cases given
      exact openAndSave_cases read vouched
    | some text =>
      rcases checkDigest_cases fs content text with
        ⟨named, checked⟩ | ⟨e, failed, checked⟩ | ⟨expected, named, other, checked⟩
      · have vouched : Vouches (some text) content := fun text' given => by
          rw [← Option.some.inj given]
          exact named
        dsimp only
        rw [bind_ok checked]
        exact openAndSave_cases read vouched
      · exact .inl ⟨_, .noDigest read rfl failed, bind_error checked⟩
      · exact .inl ⟨_, .otherDigest read rfl named other, bind_error checked⟩

/-! ## Writing the image -/

/-- Whether the directory of a path can be made, and the file system with it. -/
def MakesParent (path : Path) (fs fs₁ : FileSystem) : Prop :=
  match path.parent? with
  | none => fs₁ = fs
  | some parent => (FileAccess.makeDirectories parent : StateM FileSystem _) fs = (.ok (), fs₁)

/-- Whether the directory of a path can be made and a file then be written there, and the file
system with it. -/
def Saves (path : Path) (content : ByteArray) (fs fs' : FileSystem) : Prop :=
  ∃ fs₁, MakesParent path fs fs₁ ∧ fs₁.write path content = .ok fs'

/-- What is said of an image that is written. -/
def savedMessage (output : Path) (plaintext : ByteArray) : String :=
  s!"decrypted {plaintext.size} bytes → " ++ output.display ++ "\n"

/-- However it ends, making directories above a path only adds directories on the way. -/
theorem makesWay_makeDirectories {p q : Path} (above : q.IsAbove p) (fs : FileSystem) :
    MakesWay p fs ((FileAccess.makeDirectories q : StateM FileSystem _) fs).2 := by
  have within := Disk.within_makeDirectories above { tree := fs }
  rw [Disk.faultless_makeDirectories q fs] at within
  exact within

theorem MakesParent.makesWay {path : Path} {fs₁ : FileSystem} (made : MakesParent path fs fs₁) :
    MakesWay path fs fs₁ := by
  unfold MakesParent at made
  split at made
  · rw [made]
    exact .refl
  · rename_i parent above
    have way := makesWay_makeDirectories (Path.isAbove_of_parent? above) fs
    rw [made] at way
    exact way

theorem MakesParent.unique {path : Path} {fs₁ fs₂ : FileSystem} (h : MakesParent path fs fs₁)
    (h' : MakesParent path fs fs₂) : fs₁ = fs₂ := by
  unfold MakesParent at h h'
  split at h
  · rename_i none
    rw [none] at h'
    exact h.trans h'.symm
  · rename_i parent above
    rw [above] at h'
    exact congrArg Prod.snd (h.symm.trans h')

/-- An image is written as a whole or not at all. -/
theorem write_cases (fs : FileSystem) (output : Path) (plaintext : ByteArray) (text : String) :
    let step : Step (StateM FileSystem) String := do
      orFail (fun _ => ["writing avatar: " ++ output.display]) (FileAccess.write output plaintext)
      return text
    (∃ fs', fs.write output plaintext = .ok fs' ∧ on step fs = (.ok text, fs')) ∨
      (∃ e, fs.write output plaintext = .error e) ∧
        on step fs = (.error (.told ["writing avatar: " ++ output.display]), fs) := by
  intro step
  cases written : fs.write output plaintext with
  | ok fs' =>
    have went_well : (FileAccess.write output plaintext : StateM FileSystem _) fs
        = (.ok (), fs') := by
      show FileSystem.attempt (·.write output plaintext) fs = _
      rw [attempt, written]
    exact .inl ⟨fs', rfl, bind_ok (orFail_ok went_well)⟩
  | error e =>
    have failed : (FileAccess.write output plaintext : StateM FileSystem _) fs
        = (.error e, fs) := by
      show FileSystem.attempt (·.write output plaintext) fs = _
      rw [attempt, written]
    exact .inr ⟨⟨e, rfl⟩, bind_error (orFail_error failed)⟩

/-- What writing an image comes to: it is written, or nothing but directories on the way to it is
left behind. -/
inductive Leaves (output : Path) (plaintext : ByteArray) (fs : FileSystem) :
    Except RequestFailure String × FileSystem → Prop where
  | saved {fs' : FileSystem} (saves : Saves output plaintext fs fs') :
    Leaves output plaintext fs (.ok (savedMessage output plaintext), fs')
  | unsaved {messages : List String} {fs₁ : FileSystem}
    (unsaved : ∀ fs', ¬ Saves output plaintext fs fs') (way : MakesWay output fs fs₁) :
    Leaves output plaintext fs (.error (.told messages), fs₁)

/-- Once the directory is there, the rest is writing the file. -/
theorem leaves_of_made {fs₁ : FileSystem} (made : MakesParent output fs fs₁) :
    Leaves output plaintext fs (on (do
      orFail (fun _ => ["writing avatar: " ++ output.display]) (FileAccess.write output plaintext)
      return savedMessage output plaintext) fs₁) := by
  rcases write_cases fs₁ output plaintext (savedMessage output plaintext) with
    ⟨fs', written, ended⟩ | ⟨⟨e, unwritten⟩, ended⟩
  · rw [ended]
    exact .saved ⟨fs₁, made, written⟩
  · rw [ended]
    refine .unsaved ?_ made.makesWay
    rintro fs' ⟨fs₂, made', written⟩
    rw [made.unique made'] at unwritten
    cases unwritten.symm.trans written

theorem leaves_saveImage (output : Path) (plaintext : ByteArray) (fs : FileSystem) :
    Leaves output plaintext fs (on (saveImage output plaintext) fs) := by
  unfold saveImage
  cases above : output.parent? with
  | none =>
    have made : MakesParent output fs fs := by
      rw [MakesParent, above]
    exact leaves_of_made made
  | some parent =>
    rcases answer : (FileAccess.makeDirectories parent : StateM FileSystem _) fs
      with ⟨e | done, fs₁⟩
    · dsimp only
      rw [bind_error (orFail_error answer)]
      refine .unsaved ?_ ?_
      · rintro fs' ⟨fs₂, made, -⟩
        rw [MakesParent, above] at made
        cases (Prod.mk.inj (answer.symm.trans made)).1
      · have way := makesWay_makeDirectories (Path.isAbove_of_parent? above) fs
        rw [answer] at way
        exact way
    · have made : MakesParent output fs fs₁ := by
        rw [MakesParent, above]
        exact answer
      dsimp only
      rw [bind_ok (orFail_ok answer)]
      exact leaves_of_made made

/-- A place where a directory was made on the way to a path. -/
def NewDirectory (path : Path) (fs fs' : FileSystem) (l : Location) : Prop :=
  fs.node? l = none ∧ fs'.node? l = some .directory ∧
    ∃ q, Path.LeadsTo q path ∧ fs'.resolve q = .ok l

/-- An image that is written stands at its path, and all else is as before but for the directories
that were made. -/
theorem Saves.changes (saves : Saves output plaintext fs fs') :
    fs'.nodeAt? output = some (.file plaintext) ∧ fs'.current = fs.current ∧
      ∀ l, fs'.node? l ≠ fs.node? l →
        fs'.resolve output = .ok l ∨ NewDirectory output fs fs' l := by
  obtain ⟨fs₁, made, written⟩ := saves
  have way := made.makesWay
  have kept := (keepsDirectories_write written).1
  refine ⟨nodeAt?_write written, ((keepsDirectories_makesWay way).trans kept).current, ?_⟩
  obtain ⟨place, found, -, rfl⟩ := write_eq_ok.1 written
  intro l changed
  by_cases same : l = place
  · rw [same]
    exact .inl (kept.resolve found)
  · rw [node?_insert_of_ne same] at changed
    obtain ⟨missing, directory, q, leads, reached⟩ := way.changed changed
    refine .inr ⟨missing, ?_, q, leads, kept.resolve reached⟩
    rw [node?_insert_of_ne same]
    exact directory

/-- **Decrypting is all or nothing.**  Where the settings are loaded, a request to decrypt goes well
exactly when the file unlocks and the image can be written.  Then the image stands at its path, and
nothing else is different but directories that were made on the way to it.  Where the file does not
unlock, the first thing that does not hold is told and everything stays as it was; and a request
that fails has at most made directories. -/
theorem decrypt_all_or_nothing (cipher : Aead) {s : Surroundings} {arguments : List RawText}
    {i : Invocation} {c : Config} (workers : checkWorkers s.environment = .ok ())
    (asked : invocation s.environment arguments = .ok i)
    (request : i.request = .decrypt source output key digest)
    (loaded : settingsOf s i fs = .ok c) :
    let r := (run cipher s arguments : StateM FileSystem Report) fs
    (r.1.exit = 0 ↔
      ∃ p fs', Unlocks cipher fs source key digest p ∧ Saves output p fs fs') ∧
    (∀ p, Unlocks cipher fs source key digest p → r.1.exit = 0 →
      r.1 = .success (savedMessage output p) ∧ r.2.nodeAt? output = some (.file p) ∧
        r.2.current = fs.current ∧
        ∀ l, r.2.node? l ≠ fs.node? l →
          r.2.resolve output = .ok l ∨ NewDirectory output fs r.2 l) ∧
    (∀ messages, Refused cipher fs source key digest messages → r = (.failure messages, fs)) ∧
    ((∃ p, Unlocks cipher fs source key digest p) ∨
      ∃ messages, Refused cipher fs source key digest messages) ∧
    (r.1.exit ≠ 0 → MakesWay output fs r.2) := by
  intro r
  have ran : r = (reportOf (on (perform cipher s i) fs).1, (on (perform cipher s i) fs).2) :=
    run_of_invocation workers asked fs
  rw [perform_of_loaded loaded, carryOut, request] at ran
  dsimp only at ran
  rcases decrypt_cases cipher fs source output key digest with
    ⟨messages, refused, ended⟩ | ⟨p, unlocks, ended⟩
  · rw [ended] at ran
    rw [ran]
    refine ⟨⟨?_, ?_⟩, ?_, ?_, .inr ⟨messages, refused⟩, fun _ => .refl⟩
    · intro zero
      cases zero
    · rintro ⟨p, fs', unlocks, -⟩
      exact absurd unlocks refused.not_unlocks
    · intro p unlocks
      exact absurd unlocks refused.not_unlocks
    · intro messages' refused'
      rw [refused.unique refused']
      rfl
  · rw [ended] at ran
    have alone (messages : List String) : ¬ Refused cipher fs source key digest messages :=
      fun refused => refused.not_unlocks unlocks
    have left := leaves_saveImage output p fs
    revert ran left
    generalize on (saveImage output p) fs = answer
    intro ran left
    cases left with
    | @saved fs' saves =>
      rw [ran]
      refine ⟨⟨fun _ => ⟨p, fs', unlocks, saves⟩, fun _ => rfl⟩, ?_,
        fun messages refused => absurd refused (alone messages), .inl ⟨p, unlocks⟩,
        fun failed => absurd rfl failed⟩
      intro p' unlocks' _
      rw [unlocks'.unique unlocks]
      exact ⟨rfl, saves.changes⟩
    | @unsaved messages fs₁ unsaved way =>
      rw [ran]
      refine ⟨⟨?_, ?_⟩, ?_, fun messages refused => absurd refused (alone messages),
        .inl ⟨p, unlocks⟩, fun _ => way⟩
      · intro zero
        cases zero
      · rintro ⟨p', fs', unlocks', saves⟩
        rw [unlocks'.unique unlocks] at saves
        exact absurd saves (unsaved fs')
      · intro p' _ zero
        cases zero

/-- A request to open the file `s` and to write the image in a directory of its own. -/
def decryptArguments : List RawText :=
  ["decrypt", "s", "-o", "d/p", "--key", exampleKeyText].map .ofString

/-- What these arguments ask for. -/
def decryptInvocation : Invocation :=
  { config := .ofString "~/.config/avault/avault.toml"
    request := .decrypt ⟨[115]⟩ ⟨[100, 47, 112]⟩ exampleKeyText none }

/-- A lone file `s`. -/
def loneFile (content : ByteArray) : FileSystem := { entries := [([[115]], .file content)] }

theorem makesParent_loneFile (content : ByteArray) :
    MakesParent ⟨[100, 47, 112]⟩ (loneFile content)
      ((loneFile content).insert [[100]] .directory) := by
  have above : Path.parent? ⟨[100, 47, 112]⟩ = some ⟨[100]⟩ := by decide
  rw [MakesParent, above]
  show (FileAccess.makeDirectoriesUpTo 1 ⟨[100]⟩ : StateM FileSystem _) (loneFile content) = _
  unfold FileAccess.makeDirectoriesUpTo
  rfl

/-- What is told of the file `s` when its second segment does not authenticate. -/
def spoiledMessages : List String :=
  ["opening sealed avatar: s",
    "key error: segment 1 failed authentication: wrong key or corrupted data"]

/-- A header, a full segment, and a last one of a masked text and a tag. -/
def twoSegments (first masked : ByteArray) (tag : Bytes 16) : ByteArray :=
  exampleHeader.val ++ (first ++ (masked ++ tag.val))

/-- Sealing one byte more than a full segment holds.  The result opens, and with any other tag at its
end the second segment is refused. -/
theorem exists_twoSegments :
    ∃ (avatar : SealedAvatar) (first masked : ByteArray) (tag : Bytes 16),
      sealAvatar XChaCha20Poly1305.aead (replicateByte 65537 1) exampleKey exampleHeader
        = .ok avatar ∧
      avatar.ciphertext = twoSegments first masked tag ∧ first.size = 65552 ∧ masked.size = 1 ∧
      openAvatar XChaCha20Poly1305.aead (twoSegments first masked tag) exampleKey
        = .ok (replicateByte 65537 1) ∧
      ∀ other, other ≠ tag →
        openAvatar XChaCha20Poly1305.aead (twoSegments first masked other) exampleKey
          = .error (.unauthentic 1) := by
  have laws := xchacha_lawful
  obtain ⟨segments, sealing, made⟩ := exists_sealed laws.toSeals (replicateByte 65537 1)
    exampleKey exampleHeader (by rw [size_replicateByte]; decide)
  have count : segments.length = 2 := by
    rw [sealing.length, size_replicateByte]
    rfl
  have opened := openAvatar_of_sealing laws.toSeals laws.toOpens sealing
  have opening := sealing.opening laws.toSeals laws.toOpens
  obtain ⟨head, rest, first, last, split, full, rfl, front, back⟩ := sealing.eq_pair count
  have size := congrArg ByteArray.size split
  rw [size_replicateByte, ByteArray.size_append, full] at size
  have first_size := laws.size_encrypt _ _ _ _ _ front
  obtain ⟨masked, same, rfl⟩ := XChaCha20Poly1305.encrypt_eq_append back
  have masked_size : masked.size = 1 := by
    simp only [segmentSize] at size
    omega
  rw [joined_cons, joined_cons, joined_nil, ByteArray.append_empty] at made opened
  refine ⟨_, first, masked, _, made, rfl, ?_, masked_size, opened, fun other differs => ?_⟩
  · rw [first_size, full]
    rfl
  · have length : (masked ++ other.val).size = 17 := by
      rw [ByteArray.size_append, masked_size, other.property]
    have refused := openAvatar_of_spoiled opening count (by rw [length]; decide)
      (by rw [length]; decide) (XChaCha20Poly1305.decrypt_append_of_ne differs)
    rw [List.dropLast_cons_of_ne_nil (List.cons_ne_nil _ _), List.dropLast_singleton, joined_cons,
      joined_nil, ByteArray.append_empty] at refused
    exact refused

/-- Two segments are opened, and their image stands in a directory that was not there before.  With
any other tag at the end nothing of the first segment comes out, the second one is told, and
everything stays as it was. -/
theorem decrypt_all_or_nothing_two_segments :
    checkWorkers bareSurroundings.environment = .ok () ∧
      invocation bareSurroundings.environment decryptArguments = .ok decryptInvocation ∧
      decryptInvocation.request = .decrypt ⟨[115]⟩ ⟨[100, 47, 112]⟩ exampleKeyText none ∧
      (∀ content, settingsOf bareSurroundings decryptInvocation (loneFile content) = .ok {}) ∧
      ∃ (avatar : SealedAvatar) (first masked : ByteArray) (tag : Bytes 16),
        sealAvatar XChaCha20Poly1305.aead (replicateByte 65537 1) exampleKey exampleHeader
          = .ok avatar ∧
        avatar.ciphertext = twoSegments first masked tag ∧ first.size = 65552 ∧ masked.size = 1 ∧
        (let r := (run XChaCha20Poly1305.aead bareSurroundings decryptArguments
           : StateM FileSystem Report) (loneFile (twoSegments first masked tag))
         r.1 = .success (savedMessage ⟨[100, 47, 112]⟩ (replicateByte 65537 1)) ∧
           r.2.nodeAt? ⟨[100, 47, 112]⟩ = some (.file (replicateByte 65537 1))) ∧
        ∀ other, other ≠ tag →
          let spoiled := loneFile (twoSegments first masked other)
          Refused XChaCha20Poly1305.aead spoiled ⟨[115]⟩ exampleKeyText none spoiledMessages ∧
            (run XChaCha20Poly1305.aead bareSurroundings decryptArguments
              : StateM FileSystem Report) spoiled = (.failure spoiledMessages, spoiled) := by
  obtain ⟨avatar, first, masked, tag, made, layout, first_size, masked_size, opened, refused⟩ :=
    exists_twoSegments
  have workers : checkWorkers bareSurroundings.environment = .ok () := rfl
  have asked : invocation bareSurroundings.environment decryptArguments
      = .ok decryptInvocation := by
    decide +kernel
  have key : ProfileKey.ofBase64 exampleKeyText = .ok exampleKey := by decide +kernel
  have loaded (content : ByteArray) :
      settingsOf bareSurroundings decryptInvocation (loneFile content) = .ok {} := rfl
  have vouched (content : ByteArray) : Vouches none content := fun text given => by cases given
  refine ⟨workers, asked, rfl, loaded, avatar, first, masked, tag, made, layout, first_size,
    masked_size, ?_, fun other differs => ?_⟩
  · obtain ⟨succeeds, leaves, -⟩ :=
      decrypt_all_or_nothing XChaCha20Poly1305.aead workers asked rfl
        (loaded (twoSegments first masked tag))
    have unlocks : Unlocks XChaCha20Poly1305.aead (loneFile (twoSegments first masked tag))
        ⟨[115]⟩ exampleKeyText none (replicateByte 65537 1) :=
      ⟨_, exampleKey, rfl, vouched _, key, opened⟩
    have zero := succeeds.mpr ⟨_, _, unlocks, _, makesParent_loneFile _, rfl⟩
    obtain ⟨told, stands, -⟩ := leaves _ unlocks zero
    exact ⟨told, stands⟩
  · have messages : spoiledMessages = ["opening sealed avatar: " ++ Path.display ⟨[115]⟩,
        (OpenFailure.unauthentic 1).toUploadError.message] := by
      decide +kernel
    have spoiled : Refused XChaCha20Poly1305.aead (loneFile (twoSegments first masked other))
        ⟨[115]⟩ exampleKeyText none spoiledMessages := by
      rw [messages]
      exact .unopened rfl (vouched _) key (refused other differs)
    obtain ⟨-, -, refuses, -⟩ :=
      decrypt_all_or_nothing XChaCha20Poly1305.aead workers asked rfl
        (loaded (twoSegments first masked other))
    exact ⟨spoiled, refuses _ spoiled⟩

end AvatarVault.CommandLine
