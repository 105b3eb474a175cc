import MeetingPlatform.Lib.Base64Url
import MeetingPlatform.Lib.SignedTexts
import MeetingPlatform.Lib.Utf8
import MeetingPlatform.Media.Streaming

/- Links to media files that need no session. The server keeps no list of them: a link is its own
   proof, and only the tag tells a link that was handed out from one that was made up. -/
namespace MediaFiles
open LabelledRuns NumberedCodes SignedTexts
open PortraitStore (StorageProvider)

section Tokens
variable (hmac : Text → Text → Text) (secret : Text)

structure SignedToken where
  token : Text
  expiresAt : Nat
  deriving DecidableEq

def payloadOf (mediaFileId : Text) (expiresAtEpochMs : Nat) : Text :=
  mediaFileId ++ '|' :: Nat.toDigits 10 expiresAtEpochMs

/-- `hmac` is the digest in hexadecimal. Without a secret there are no links. -/
def generateSignedDownloadToken (mediaFileId : Text) (ttlSeconds now : Nat) : Option SignedToken :=
  if secret = [] then none
  else
    let expiresAtEpochMs := now + ttlSeconds * 1000
    let payload := payloadOf mediaFileId expiresAtEpochMs
    some
      { token := Base64Url.encode (Utf8.encode (payload ++ '.' :: hmac secret payload))
        expiresAt := expiresAtEpochMs }

def decoded (token : Text) : Text := Utf8.decode (Base64Url.decode token)

/-- A moment that is not a number is never passed. -/
def verifySignedDownloadToken (token : Option Text) (now : Nat) : Option Text :=
  if secret = [] then none
  else
    match token with
    | none => none
    | some token =>
      match cutLast '.' (decoded token) with
      | none => none
      | some (payload, receivedHmac) =>
        let expectedHmac := hmac secret payload
        if receivedHmac.length ≠ expectedHmac.length then none
        else if Utf8.encode receivedHmac ≠ Utf8.encode expectedHmac then none
        else
          match cutLast '|' payload with
          | none => none
          | some (mediaFileId, written) =>
            match parseInt written with
            | none => some mediaFileId
            | some expiresAtEpochMs =>
              if (now : Int) > expiresAtEpochMs then none else some mediaFileId

inductive SecureAnswer where
  | forbidden
  | notFound
  | redirect (url : String)
  | media (m : ResolvedMedia)
  deriving DecidableEq

def SecureAnswer.of : Option SecureMedia → SecureAnswer
  | none => .notFound
  | some (.redirect url) => .redirect url
  | some (.media m) => .media m

def secureDownload (st : Storage) (files : List MediaFileEntity) (token : Option Text)
    (fileId : Text) (now : Nat) : SecureAnswer :=
  if verifySignedDownloadToken hmac secret token now = some fileId then
    .of (resolveSecureDownload st files fileId)
  else .forbidden

end Tokens

section Verifying
variable {hmac : Text → Text → Text} {secret : Text}

theorem verify_eq_some {token fileId : Text} {now : Nat}
    (dotless : ∀ payload, '.' ∉ hmac secret payload) :
    verifySignedDownloadToken hmac secret (some token) now = some fileId ↔
      secret ≠ [] ∧ ∃ payload written,
        openSigned (hmac secret) '.' (decoded token) = some payload ∧
        cutLast '|' payload = some (fileId, written) ∧
        ∀ expires, parseInt written = some expires → (now : Int) ≤ expires := by
  constructor
  · intro verified
    rw [verifySignedDownloadToken] at verified
    split at verified
    · cases verified
    · rename_i configured
      refine ⟨configured, ?_⟩
      simp only at verified
      split at verified
      · cases verified
      · rename_i payload received cut
        split at verified
        · cases verified
        · split at verified
          · cases verified
          · rename_i equal
            have genuine := Utf8.encode_injective (not_not.mp equal)
            split at verified
            · cases verified
            · rename_i mediaFileId written fields
              have opened : openSigned (hmac secret) '.' (decoded token) = some payload := by
                rw [openSigned, cut]
                exact if_pos genuine
              split at verified
              · rename_i unread
                rw [← Option.some.inj verified]
                refine ⟨payload, written, opened, fields, ?_⟩
                intro expires read
                rw [unread] at read
                cases read
              · rename_i expires read
                split at verified
                · cases verified
                · rename_i early
                  rw [← Option.some.inj verified]
                  refine ⟨payload, written, opened, fields, ?_⟩
                  intro other again
                  rw [read, Option.some.injEq] at again
                  omega
  · rintro ⟨configured, payload, written, opened, fields, early⟩
    have cut : cutLast '.' (decoded token) = some (payload, hmac secret payload) := by
      rw [(openSigned_eq_some dotless).mp opened, sign, cutLast_append (dotless payload)]
    rw [verifySignedDownloadToken, if_neg configured]
    simp only [cut, ne_eq, not_true_eq_false, if_false, fields]
    cases read : parseInt written with
    | none => rfl
    | some expires => exact if_neg (Int.not_lt.mpr (early expires read))

theorem decoded_generated {mediaFileId : Text} {ttlSeconds now : Nat} {signed : SignedToken}
    (made : generateSignedDownloadToken hmac secret mediaFileId ttlSeconds now = some signed) :
    decoded signed.token =
      sign (hmac secret) '.' (payloadOf mediaFileId (now + ttlSeconds * 1000)) := by
  rw [generateSignedDownloadToken] at made
  split at made
  · cases made
  · rw [← Option.some.inj made, decoded, Base64Url.decode_encode, Utf8.decode_encode]
    rfl

theorem cutLast_payloadOf (mediaFileId : Text) (expires : Nat) :
    cutLast '|' (payloadOf mediaFileId expires) = some (mediaFileId, Nat.toDigits 10 expires) := by
  refine cutLast_append fun there => ?_
  exact absurd (toDigits_digits expires '|' there) (by decide)

theorem verify_generated {mediaFileId fileId : Text} {ttlSeconds made now : Nat} {signed : SignedToken}
    (dotless : ∀ payload, '.' ∉ hmac secret payload)
    (generated : generateSignedDownloadToken hmac secret mediaFileId ttlSeconds made = some signed) :
    verifySignedDownloadToken hmac secret (some signed.token) now = some fileId ↔
      fileId = mediaFileId ∧ now ≤ made + ttlSeconds * 1000 := by
  have configured : secret ≠ [] := by
    intro missing
    rw [generateSignedDownloadToken, if_pos missing] at generated
    cases generated
  have opened : ∀ payload, openSigned (hmac secret) '.' (decoded signed.token) = some payload ↔
      payload = payloadOf mediaFileId (made + ttlSeconds * 1000) := by
    intro payload
    have text := decoded_generated generated
    rw [(openSigned_eq_some dotless).mpr text, Option.some.injEq, eq_comm]
  rw [verify_eq_some dotless]
  constructor
  · rintro ⟨-, payload, written, open_payload, fields, early⟩
    rw [(opened payload).mp open_payload, cutLast_payloadOf, Option.some.injEq, Prod.mk.injEq] at fields
    have := early _ (fields.2 ▸ parseInt_toDigits)
    exact ⟨fields.1.symm, by omega⟩
  · rintro ⟨rfl, early⟩
    refine ⟨configured, _, _, (opened _).mpr rfl, cutLast_payloadOf _ _, ?_⟩
    intro expires read
    rw [parseInt_toDigits, Option.some.injEq] at read
    omega

end Verifying

section Links

structure Link where
  mediaFileId : Text
  expiresAt : Nat
  deriving DecidableEq

/-- The list of links is the record of the run, not something the server has. -/
structure Store where
  files : List MediaFileEntity
  links : List Link

inductive VisibilityAction where
  | hide | softDelete
  deriving DecidableEq

inductive MediaError where
  | mediaFileNotFound
  | permissionDenied
  deriving DecidableEq

def assertCanManageMediaFile (m : MediaFileEntity) (roleCodes : List String) (isHost : Bool) : Bool :=
  roleCodes.any (· ∈ ["BUSINESS_ADMIN", "MANAGER", "SYSTEM_ADMIN"]) || (m.meetingId.isSome && isHost)

def MediaFileEntity.hide (m : MediaFileEntity) : MediaFileEntity := { m with isActive := false }

def MediaFileEntity.remove (m : MediaFileEntity) : MediaFileEntity := { m with deleted := true }

def updateById (files : List MediaFileEntity) (fileId : Text)
    (f : MediaFileEntity → MediaFileEntity) : List MediaFileEntity :=
  files.map fun m => if m.id = fileId then f m else m

def setVisibility (files : List MediaFileEntity) (fileId : Text) (action : VisibilityAction)
    (roleCodes : List String) (isHost : Bool) : Except MediaError (List MediaFileEntity) :=
  match loadActive files fileId with
  | none => .error .mediaFileNotFound
  | some m =>
    if assertCanManageMediaFile m roleCodes isHost then
      match action with
      | .hide => .ok (updateById files fileId .hide)
      | .softDelete => .ok (updateById files fileId .remove)
    else .error .permissionDenied

/-- The other soft deletion, of what is attached to an agenda or to minutes. -/
def deleteAttachment (files : List MediaFileEntity) (fileId : Text) : List MediaFileEntity :=
  updateById files fileId .remove

/-- `link` is every place that puts a token into an answer. It has loaded the row before, and the row
    may be gone by now. -/
inductive Event where
  | insert (row : MediaFileEntity)
  | link (fileId : Text) (now : Nat)
  | setVisibility (fileId : Text) (action : VisibilityAction) (roleCodes : List String)
      (isHost : Bool)
  | deleteAttachment (fileId : Text)

variable (hmac : Text → Text → Text) (secret : Text) (ttl : Nat)

inductive Step : Store → Event → Store → Prop where
  | insert {s : Store} {row : MediaFileEntity} (fresh : ∀ m ∈ s.files, m.id ≠ row.id)
      (live : row.deleted = false) :
      Step s (.insert row) { s with files := s.files ++ [row] }
  | link {s : Store} {fileId : Text} {now : Nat} {signed : SignedToken}
      (loaded : ∃ m ∈ s.files, m.id = fileId)
      (made : generateSignedDownloadToken hmac secret fileId ttl now = some signed) :
      Step s (.link fileId now)
        { s with links := s.links ++ [⟨fileId, signed.expiresAt⟩] }
  | setVisibility {s : Store} {fileId : Text} {action : VisibilityAction} {roleCodes : List String}
      {isHost : Bool} {files : List MediaFileEntity}
      (done : setVisibility s.files fileId action roleCodes isHost = .ok files) :
      Step s (.setVisibility fileId action roleCodes isHost) { s with files := files }
  | deleteAttachment {s : Store} {fileId : Text} :
      Step s (.deleteAttachment fileId) { s with files := deleteAttachment s.files fileId }

def Event.deletes (fileId : Text) : Event → Bool
  | .setVisibility id .softDelete _ _ => id = fileId
  | .deleteAttachment id => id = fileId
  | _ => false

end Links

section Genuine
variable {hmac : Text → Text → Text} {secret : Text} {ttl : Nat}

theorem generated_expires {fileId : Text} {now : Nat} {signed : SignedToken}
    (made : generateSignedDownloadToken hmac secret fileId ttl now = some signed) :
    signed.expiresAt = now + ttl * 1000 := by
  rw [generateSignedDownloadToken] at made
  split at made
  · cases made
  · rw [← Option.some.inj made]

def HandedOut (moves : List (Move Store Event)) (l : Link) (ttl : Nat) : Prop :=
  ∃ move ∈ moves, ∃ now, move.label = .link l.mediaFileId now ∧ l.expiresAt = now + ttl * 1000

theorem links_handed_out {moves : List (Move Store Event)} {s : Store}
    (run : Run (Step hmac secret ttl) ⟨[], []⟩ moves s) {l : Link} :
    l ∈ s.links ↔ HandedOut moves l ttl := by
  induction run with
  | nil => simp [HandedOut]
  | @snoc t u event moves init last ih =>
    have split_move : HandedOut (moves ++ [⟨t, event, u⟩]) l ttl ↔
        HandedOut moves l ttl ∨
          ∃ now, event = .link l.mediaFileId now ∧ l.expiresAt = now + ttl * 1000 := by
      simp only [HandedOut, List.mem_append, List.mem_singleton, or_and_right, exists_or,
        exists_eq_left]
    rw [split_move, ← ih]
    cases last with
    | insert fresh live => simp
    | @link fileId now signed loaded made =>
      rw [List.mem_append, List.mem_singleton, generated_expires made]
      refine or_congr_right ⟨?_, ?_⟩
      · rintro rfl
        exact ⟨now, rfl, rfl⟩
      · rintro ⟨at_now, same, expires⟩
        rw [Event.link.injEq] at same
        obtain ⟨id, moment⟩ := l
        rw [Link.mk.injEq]
        exact ⟨same.1.symm, expires.trans (by rw [same.2])⟩
    | setVisibility done => simp
    | deleteAttachment => simp

theorem link_configured {moves : List (Move Store Event)} {s : Store} {l : Link}
    (run : Run (Step hmac secret ttl) ⟨[], []⟩ moves s) (there : l ∈ s.links) : secret ≠ [] := by
  induction run with
  | nil => cases there
  | snoc init last ih =>
    cases last with
    | insert fresh live => exact ih there
    | link loaded made =>
      intro missing
      rw [generateSignedDownloadToken, if_pos missing] at made
      cases made
    | setVisibility done => exact ih there
    | deleteAttachment => exact ih there

/-- Over every run, with any token that anyone may present: the gate opens for a file exactly when
    a link to that very file was handed out before, the token carries the text of that link, and the
    link's time is not over. Nothing is assumed of the token but that it forges no tag. -/
theorem secure_download_opens {moves : List (Move Store Event)} {s : Store} {token fileId : Text}
    {now : Nat} {st : Storage} (run : Run (Step hmac secret ttl) ⟨[], []⟩ moves s)
    (dotless : ∀ payload, '.' ∉ hmac secret payload)
    (unforged : Unforged (hmac secret) '.' (s.links.map fun l => payloadOf l.mediaFileId l.expiresAt)
      (decoded token)) :
    secureDownload hmac secret st s.files (some token) fileId now ≠ .forbidden ↔
      ∃ move ∈ moves, ∃ made, move.label = .link fileId made ∧ now ≤ made + ttl * 1000 ∧
        decoded token = sign (hmac secret) '.' (payloadOf fileId (made + ttl * 1000)) := by
  have opens : secureDownload hmac secret st s.files (some token) fileId now ≠ .forbidden ↔
      verifySignedDownloadToken hmac secret (some token) now = some fileId := by
    rw [secureDownload]
    split
    · rename_i verified
      refine iff_of_true ?_ verified
      cases resolveSecureDownload st s.files fileId with
      | none => exact SecureAnswer.noConfusion
      | some found => cases found <;> exact SecureAnswer.noConfusion
    · rename_i refused
      exact iff_of_false (not_not.mpr rfl) refused
  rw [opens, verify_eq_some dotless]
  constructor
  · rintro ⟨-, payload, written, opened, fields, early⟩
    obtain ⟨l, there, rfl⟩ := List.mem_map.mp (opened_signed dotless unforged opened)
    rw [cutLast_payloadOf, Option.some.injEq, Prod.mk.injEq] at fields
    obtain ⟨move, in_moves, made, label, expires⟩ := (links_handed_out run).mp there
    have in_time := early _ (fields.2 ▸ parseInt_toDigits)
    rw [fields.1] at label
    refine ⟨move, in_moves, made, label, by omega, ?_⟩
    rw [← expires, ← fields.1]
    exact (openSigned_eq_some dotless).mp opened
  · rintro ⟨move, in_moves, made, label, in_time, carried⟩
    have there : (⟨fileId, made + ttl * 1000⟩ : Link) ∈ s.links :=
      (links_handed_out run).mpr ⟨move, in_moves, made, label, rfl⟩
    refine ⟨link_configured run there, _, _, (openSigned_eq_some dotless).mpr carried,
      cutLast_payloadOf _ _, ?_⟩
    intro expires read
    rw [parseInt_toDigits, Option.some.injEq] at read
    omega

def sumOf (secret payload : Text) : Text :=
  Nat.toDigits 10 ((secret ++ payload).foldl (fun sum c => (sum * 31 + c.toNat) % 99991) 7)

theorem sumOf_dotless (secret payload : Text) : '.' ∉ sumOf secret payload := by
  intro there
  exact absurd (toDigits_digits _ '.' there) (by decide)

def secretText : Text := "sixteen letters.".toList

def clipToken : SignedToken where
  token := Base64Url.encode
    (Utf8.encode (sign (sumOf secretText) '.' (payloadOf "c1".toList 65000)))
  expiresAt := 65000

theorem clipToken_made :
    generateSignedDownloadToken sumOf secretText "c1".toList 60 5000 = some clipToken := by
  rw [generateSignedDownloadToken, if_neg (by decide)]
  rfl

theorem secure_download_opens_at_last :
    secureDownload sumOf secretText (shelf none) [clipRow "clip".toList] (some clipToken.token)
      "c1".toList 65000 ≠ .forbidden := by
  have inserted : Step sumOf secretText 60 ⟨[], []⟩ (.insert (clipRow "clip".toList))
      ⟨[clipRow "clip".toList], []⟩ := .insert (by simp) rfl
  have linked : Step sumOf secretText 60 ⟨[clipRow "clip".toList], []⟩ (.link "c1".toList 5000)
      ⟨[clipRow "clip".toList], [⟨"c1".toList, 65000⟩]⟩ := .link (by decide) clipToken_made
  have text := decoded_generated clipToken_made
  have unforged : Unforged (sumOf secretText) '.' [payloadOf "c1".toList 65000]
      (decoded clipToken.token) := by
    rw [text]
    exact sign_unforged (sumOf_dotless secretText) List.mem_cons_self
  refine (secure_download_opens ((Run.nil.snoc inserted).snoc linked) (sumOf_dotless secretText)
    unforged).mpr ⟨_, List.mem_append_right _ List.mem_cons_self, 5000, rfl, Nat.le_refl _, text⟩

end Genuine

section Withdrawn
variable {hmac : Text → Text → Text} {secret : Text} {ttl : Nat} {files after : List MediaFileEntity}
  {fileId : Text} {m : MediaFileEntity}

theorem loadActive_hide {id : Text} :
    loadActive (updateById files id .hide) fileId =
      (loadActive files fileId).map fun m => if m.id = id then m.hide else m := by
  rw [loadActive, updateById, List.find?_map]
  refine congrArg _ (congrArg (List.find? · files) (funext fun m => ?_))
  simp only [Function.comp_apply]
  split <;> rfl

theorem loadActive_removed :
    loadActive (updateById files fileId .remove) fileId = none := by
  rw [loadActive, List.find?_eq_none]
  intro m there
  obtain ⟨row, -, rfl⟩ := List.mem_map.mp there
  split
  · simp [MediaFileEntity.remove]
  · rename_i other
    simp [other]

theorem loadActive_id (loaded : loadActive files fileId = some m) :
    m ∈ files ∧ m.id = fileId ∧ m.deleted = false := by
  have found := List.find?_some loaded
  rw [decide_eq_true_eq] at found
  exact ⟨List.mem_of_find?_eq_some loaded, found⟩

theorem loadActive_other {id : Text} (other : id ≠ fileId) :
    loadActive (updateById files id .remove) fileId =
      loadActive files fileId := by
  have same : ((fun m : MediaFileEntity => decide (m.id = fileId ∧ m.deleted = false)) ∘
      fun m => if m.id = id then m.remove else m) =
        fun m => decide (m.id = fileId ∧ m.deleted = false) := by
    funext m
    simp only [Function.comp_apply]
    split
    · rename_i here
      have away : m.id ≠ fileId := fun equal => other (here.symm.trans equal)
      simp [MediaFileEntity.remove, away]
    · rfl
  rw [loadActive, updateById, List.find?_map, same, loadActive]
  cases found : files.find? fun m => decide (m.id = fileId ∧ m.deleted = false) with
  | none => rfl
  | some m =>
    have named := (loadActive_id found).2.1
    have away : m.id ≠ id := fun equal => other (equal.symm.trans named)
    rw [Option.map_some, if_neg away]

theorem loadActive_hidden {id : Text} (loaded : loadActive files fileId = some m) :
    ∃ b, loadActive (updateById files id .hide) fileId = some { m with isActive := b } := by
  rw [loadActive_hide, loaded, Option.map_some]
  split
  · exact ⟨false, rfl⟩
  · exact ⟨m.isActive, rfl⟩

theorem updateById_named {id : Text} {f : MediaFileEntity → MediaFileEntity}
    (keeps : ∀ m, (f m).id = m.id) (there : ∃ row ∈ files, row.id = fileId) :
    ∃ row ∈ updateById files id f, row.id = fileId := by
  obtain ⟨row, there, named⟩ := there
  refine ⟨_, List.mem_map_of_mem there, ?_⟩
  split
  · rw [keeps, named]
  · exact named

/-- What the events of a run leave of a file: the row itself, perhaps hidden, or nothing. -/
structure Standing (fileId : Text) (m : MediaFileEntity) (deleted : Bool) (s : Store) : Prop where
  named : ∃ row ∈ s.files, row.id = fileId
  found :
    if deleted then loadActive s.files fileId = none
    else ∃ b, loadActive s.files fileId = some { m with isActive := b }

theorem remove_standing {s : Store} {deleted : Bool} {id : Text}
    (standing : Standing fileId m deleted s) :
    Standing fileId m (deleted || decide (id = fileId))
      { s with files := updateById s.files id .remove } := by
  refine ⟨updateById_named (fun _ => rfl) standing.named, ?_⟩
  by_cases same : id = fileId
  · subst same
    simp only [decide_true, Bool.or_true, if_true]
    exact loadActive_removed
  · simp only [same, decide_false, Bool.or_false, loadActive_other same]
    exact standing.found

theorem hide_standing {s : Store} {deleted : Bool} {id : Text}
    (standing : Standing fileId m deleted s) :
    Standing fileId m deleted { s with files := updateById s.files id .hide } := by
  refine ⟨updateById_named (fun _ => rfl) standing.named, ?_⟩
  have found := standing.found
  cases deleted with
  | true =>
    simp only [if_true] at found ⊢
    rw [loadActive_hide, found, Option.map_none]
  | false =>
    simp only [Bool.false_eq_true, if_false] at found ⊢
    obtain ⟨b, loaded⟩ := found
    obtain ⟨c, hidden⟩ := @loadActive_hidden s.files fileId _ id loaded
    exact ⟨c, hidden⟩

theorem step_standing {s u : Store} {event : Event} {deleted : Bool}
    (standing : Standing fileId m deleted s) (step : Step hmac secret ttl s event u) :
    Standing fileId m (deleted || event.deletes fileId) u := by
  cases step with
  | @insert row fresh live =>
    obtain ⟨old, there, named⟩ := standing.named
    have other : row.id ≠ fileId := fun equal => fresh old there (named.trans equal.symm)
    have same : loadActive (s.files ++ [row]) fileId = loadActive s.files fileId := by
      simp [loadActive, List.find?_append, other]
    refine ⟨⟨old, List.mem_append_left _ there, named⟩, ?_⟩
    simp only [Event.deletes, Bool.or_false, same]
    exact standing.found
  | link loaded made =>
    simp only [Event.deletes, Bool.or_false]
    exact ⟨standing.named, standing.found⟩
  | @setVisibility id action roleCodes isHost files done =>
    unfold setVisibility at done
    split at done
    · cases done
    · split at done
      · cases action with
        | hide =>
          rw [← Except.ok.inj done]
          simp only [Event.deletes, Bool.or_false]
          exact hide_standing standing
        | softDelete =>
          rw [← Except.ok.inj done]
          exact remove_standing standing
      · cases done
  | deleteAttachment => exact remove_standing standing

theorem run_standing {s u : Store} {more : List (Move Store Event)}
    (loaded : loadActive s.files fileId = some m) (later : Run (Step hmac secret ttl) s more u) :
    Standing fileId m (more.any fun move => move.label.deletes fileId) u := by
  induction later with
  | nil =>
    refine ⟨⟨m, (loadActive_id loaded).1, (loadActive_id loaded).2.1⟩, ?_⟩
    exact ⟨m.isActive, loaded⟩
  | snoc init last ih =>
    rw [List.any_append, List.any_cons, List.any_nil, Bool.or_false]
    exact step_standing ih last

theorem resolve_hidden {st : Storage} {b : Bool} (loaded : loadActive files fileId = some m)
    (again : loadActive after fileId = some { m with isActive := b }) :
    resolveSecureDownload st after fileId = resolveSecureDownload st files fileId := by
  simp only [resolveSecureDownload, resolvePlayback, loaded, again, Option.bind_some]
  rfl

theorem resolve_gone {st : Storage} (gone : loadActive files fileId = none) :
    resolveSecureDownload st files fileId = none := by
  rw [resolveSecureDownload, gone, Option.bind_none]

/-- The life of a link. Up to its last millisecond it gives what it gave when it was made, whoever
    hides the file meanwhile; a soft deletion ends it for good; and after its time, or for any other
    file, it is refused. -/
theorem link_life {s u : Store} {more : List (Move Store Event)} {made now : Nat}
    {signed : SignedToken} {st : Storage} (dotless : ∀ payload, '.' ∉ hmac secret payload)
    (loaded : (loadActive s.files fileId).isSome = true)
    (generated : generateSignedDownloadToken hmac secret fileId ttl made = some signed)
    (later : Run (Step hmac secret ttl) s more u) (asked : Text) :
    secureDownload hmac secret st u.files (some signed.token) asked now =
      if asked = fileId ∧ now ≤ made + ttl * 1000 then
        if more.any fun move => move.label.deletes fileId then .notFound
        else secureDownload hmac secret st s.files (some signed.token) fileId made
      else .forbidden := by
  obtain ⟨m, loaded⟩ := Option.isSome_iff_exists.mp loaded
  have verified : ∀ at_now, verifySignedDownloadToken hmac secret (some signed.token) at_now = some asked ↔
      asked = fileId ∧ at_now ≤ made + ttl * 1000 := fun _ => verify_generated dotless generated
  by_cases opens : asked = fileId ∧ now ≤ made + ttl * 1000
  · obtain ⟨rfl, in_time⟩ := opens
    have at_first := (verified made).mpr ⟨rfl, Nat.le_add_right _ _⟩
    rw [if_pos ⟨rfl, in_time⟩, secureDownload, if_pos ((verified now).mpr ⟨rfl, in_time⟩),
      secureDownload, if_pos at_first]
    have standing := (run_standing loaded later).found
    by_cases deleted : (more.any fun move => move.label.deletes asked) = true
    · rw [if_pos deleted] at standing ⊢
      rw [resolve_gone standing]
      rfl
    · rw [if_neg deleted] at standing ⊢
      obtain ⟨b, again⟩ := standing
      rw [resolve_hidden loaded again]
  · rw [if_neg opens, secureDownload, if_neg fun equal => opens ((verified now).mp equal)]

theorem link_life_deleted :
    secureDownload sumOf secretText (shelf none) [(clipRow "clip".toList).hide]
        (some clipToken.token) "c1".toList 30000 = .media clip ∧
      secureDownload sumOf secretText (shelf none) [(clipRow "clip".toList).hide.remove]
        (some clipToken.token) "c1".toList 40000 = .notFound := by
  have hidden : Step sumOf secretText 60 ⟨[clipRow "clip".toList], []⟩
      (.setVisibility "c1".toList .hide ["MANAGER"] false)
      ⟨[(clipRow "clip".toList).hide], []⟩ := .setVisibility rfl
  have deleted : Step sumOf secretText 60 ⟨[(clipRow "clip".toList).hide], []⟩
      (.deleteAttachment "c1".toList) ⟨[(clipRow "clip".toList).hide.remove], []⟩ := .deleteAttachment
  have life := fun {u more} (later : Run (Step sumOf secretText 60) ⟨[clipRow "clip".toList], []⟩ more u) now =>
    @link_life sumOf secretText 60 "c1".toList _ u more 5000 now clipToken (shelf none)
      (sumOf_dotless secretText) rfl clipToken_made later "c1".toList
  have opened := (@verify_generated sumOf secretText "c1".toList "c1".toList 60 5000 5000 clipToken
    (sumOf_dotless secretText) clipToken_made).mpr ⟨rfl, by decide⟩
  have first : secureDownload sumOf secretText (shelf none) [clipRow "clip".toList]
      (some clipToken.token) "c1".toList 5000 = .media clip := by
    rw [secureDownload, if_pos opened]
    decide
  constructor
  · rw [life (Run.nil.snoc hidden) 30000, if_pos ⟨rfl, by decide⟩]
    exact (if_neg (by decide)).trans first
  · rw [life ((Run.nil.snoc hidden).snoc deleted) 40000, if_pos ⟨rfl, by decide⟩]
    exact if_pos (by decide)

end Withdrawn

section Confined
variable {hmac : Text → Text → Text} {secret : Text} {st other : Storage}
  {files : List MediaFileEntity} {fileId : Text}

theorem stream_same {m : ResolvedMedia} {range : Option Text} (same : SameInside st other)
    (found : resolvePlayback st files fileId = some m) :
    streamWithRangeSupport st range m = streamWithRangeSupport other range m := by
  have opened : ∀ part, openMediaStream st m part = openMediaStream other m part := by
    intro part
    cases m with
    | onDisk path size mimeType fileName =>
      rw [openMediaStream, openMediaStream, same.disk path (resolved_on_disk found)]
    | remote storageKey size mimeType fileName => exact getObjectStream_same same
  simp only [streamWithRangeSupport, opened]

/-- What lies on the disk outside of the two directories cannot be told from any answer: not from
    whether a file is found, not from its size and not from any range of it, whatever keys the rows
    have. -/
theorem answers_confined (same : SameInside st other) (token range : Option Text) (now : Nat) :
    secureDownload hmac secret st files token fileId now =
        secureDownload hmac secret other files token fileId now ∧
      (resolvePlayback st files fileId).map (streamWithRangeSupport st range) =
        (resolvePlayback other files fileId).map (streamWithRangeSupport other range) := by
  constructor
  · simp only [secureDownload, resolveSecureDownload_same same]
  · rw [← resolvePlayback_same same]
    cases found : resolvePlayback st files fileId with
    | none => rfl
    | some m => exact congrArg some (stream_same same found)

theorem answers_confined_climbing :
    (resolvePlayback (shelf (some [1])) [clipRow "../secrets".toList] "c1".toList).map
        (streamWithRangeSupport (shelf (some [1])) none) =
      (resolvePlayback (shelf none) [clipRow "../secrets".toList] "c1".toList).map
        (streamWithRangeSupport (shelf none) none) := by
  refine (@answers_confined sumOf secretText (shelf (some [1])) (shelf none)
    [clipRow "../secrets".toList] "c1".toList ⟨rfl, rfl, rfl, rfl, rfl, ?_⟩ none none 0).2
  intro path inside
  have elsewhere : path ≠ ["srv".toList, "secrets".toList] := by
    rintro rfl
    rcases inside with below | ⟨base, there, -⟩
    · exact absurd below (by decide)
    · cases there
  simp only [shelf, elsewhere, if_false]

end Confined
end MediaFiles
