import BifrostApi.Lib.Run
import BifrostApi.Lib.Transaction
import BifrostApi.Py.Date
import BifrostApi.Py.Json
import Mathlib.Data.List.Forall2

/-!
# Reporting feedback

`post_report` decodes the images, borrows a connection, and inserts the report and its images in one transaction;
nothing calls `rollback`. A failure leaves the writes pending on the connection, and it is the pool that drops them
when the connection is put back. `reportAtomic` says that over every run of requests, whatever fails in them, a report
is stored with all its images or not at all, and that one within the contract is stored where nothing fails.

| here | there |
| --- | --- |
| `b64decode` | `base64.b64decode(s, validate=True)` |
| `decodeImage`, `decodeImages` | `decode_images` (research/feedback_store.py:133) |
| `publicId`, `row` | `public_id`, `_row` |
| `refuse`, `insertImages`, `insertRows`, `insertReport` | `insert_report` |
| `Transaction.withConn` | `get_conn` |
| `storeDown`, `answered`, `postReport` | `_store_down`, `post_report` (research/routers/feedback.py:41) |
-/

namespace BifrostApi.Research.Feedback

open Py Hoare Transaction

/-! ## Images -/

def base64Value (c : Char) : Option Nat :=
  if 'A' ≤ c ∧ c ≤ 'Z' then some (c.toNat - 65)
  else if 'a' ≤ c ∧ c ≤ 'z' then some (c.toNat - 71)
  else if '0' ≤ c ∧ c ≤ '9' then some (c.toNat + 4)
  else if c = '+' then some 62
  else if c = '/' then some 63
  else none

/-- Where the decoder stands in a group of four: characters read, bits left of them, padding seen. -/
structure Quad where
  pos : Nat
  left : Nat
  pads : Nat
  padded : Bool

def decodeQuads (q : Quad) : List Char → Option (List UInt8)
  | [] => if q.pos = 0 then some [] else none
  | c :: cs =>
    if c = '=' then
      if 2 ≤ q.pos ∧ 4 ≤ q.pos + (q.pads + 1) then (if cs = [] then some [] else none)
      else decodeQuads { q with pads := if 2 ≤ q.pos then q.pads + 1 else q.pads, padded := true } cs
    else match base64Value c with
      | none => none
      | some v =>
        if q.padded then none
        else match q.pos with
          | 0 => decodeQuads ⟨1, v, 0, false⟩ cs
          | 1 => (decodeQuads ⟨2, v % 16, 0, false⟩ cs).map (UInt8.ofNat (4 * q.left + v / 16) :: ·)
          | 2 => (decodeQuads ⟨3, v % 4, 0, false⟩ cs).map (UInt8.ofNat (16 * q.left + v / 4) :: ·)
          | _ => (decodeQuads ⟨0, 0, 0, false⟩ cs).map (UInt8.ofNat (64 * q.left + v) :: ·)

/-- `none` is `binascii.Error` or `ValueError`. -/
def b64decode (s : String) : Option (List UInt8) :=
  match s.toList with
  | '=' :: _ => none
  | cs => decodeQuads ⟨0, 0, 0, false⟩ cs

example : b64decode "dGlueQ==" = some "tiny".toUTF8.toList := by decide +kernel

structure Image where
  mime : String
  bytes : List UInt8
  deriving DecidableEq

def maxImages : Nat := 4
def maxImageBytes : Nat := 2000000

section

variable (container : Json → String)

/-- The `i`-th item; an error is the text of a `FeedbackValidationError`. -/
def decodeImage (i : Nat) (item : Json) : Except String Image :=
  match item.items? with
  | none => .error "images must be objects"
  | some item =>
    let mime := lower (strip ((Json.getOr item "mime" (.str "")).text container))
    if startsWith mime "image/" then
      match b64decode ((Json.getOr item "data_b64" (.str "")).text container) with
      | none => .error s!"image {i + 1}: bad base64"
      | some data =>
        if data = [] then .error s!"image {i + 1}: empty"
        else if maxImageBytes < data.length then .error s!"image {i + 1}: over {maxImageBytes / 1000000} MB"
        else .ok ⟨mime, data⟩
    else .error s!"image {i + 1}: mime must be image/*"

def decodeItems (i : Nat) : List Json → Except String (List Image)
  | [] => .ok []
  | item :: items => do pure ((← decodeImage container i item) :: (← decodeItems (i + 1) items))

def listOf : Option Json → List Json
  | some (.arr items) => items
  | _ => []

def decodeImages (raw : Option Json) : Except String (List Image) :=
  let items := listOf raw
  if maxImages < items.length then .error s!"at most {maxImages} images" else decodeItems container 0 items

end

/-! ## The store -/

structure Report where
  reportId : Nat
  kind : String
  title : String
  bodyMd : String
  pageRoute : String
  pageLabel : String
  blocksTrading : Bool
  context : Dict String Json
  status : String
  replyMd : Option String
  repliedAt : Option String
  unreadReply : Bool
  createdAt : String
  updatedAt : String

structure ReportImage where
  reportId : Nat
  seq : Nat
  mime : String
  bytes : List UInt8

/-- `ops_feedback.report` and `ops_feedback.report_image`, oldest row first. -/
structure Store where
  reports : List Report
  images : List ReportImage

inductive Write
  | report (r : Report)
  | image (i : ReportImage)

def Store.apply (s : Store) : Write → Store
  | .report r => { s with reports := s.reports ++ [r] }
  | .image i => { s with images := s.images ++ [i] }

/-! ## Inserting a report -/

structure DbError where
  pgcode : Option String
  message : String
  deriving DecidableEq

inductive Failure
  | validation (text : String)
  | database (e : DbError)

/-- Where `post_report` can fail. -/
inductive Point
  | pool
  | getconn
  | cursor
  | insertReport
  | fetchone
  | insertImage (seq : Nat)
  | closeCursor
  | commit
  | row
  | putconn

/-- What surrounds one request: the id and the time the database gives the row, and what fails. -/
structure Env where
  reportId : Nat
  now : String
  fault : Point → Option (Fault DbError)

def Env.failure (env : Env) (p : Point) : Option (Fault Failure) :=
  (env.fault p).map fun f => ⟨.database f.error, f.mode⟩

abbrev FeedbackDb := Db Store Write

abbrev Act (α : Type) := Prog FeedbackDb Failure α

/-- A connection that is closed, or whose transaction is aborted, takes no statement. -/
def unusable : Failure := .database ⟨some "25P02", "current transaction is aborted or the connection is closed"⟩

/-- The arguments of `insert_report` but for the images. -/
structure Fields where
  kind : String
  title : String
  bodyMd : String
  pageRoute : String
  pageLabel : String
  blocksTrading : Bool
  context : Dict String Json

def kinds : List String := ["bug", "data", "idea", "howto"]
def maxTitle : Nat := 200
def maxBody : Nat := 20000

/-- The text of the first check that fails. -/
def refuse (f : Fields) : Option String :=
  if f.kind ∉ kinds then some "kind must be one of ('bug', 'data', 'idea', 'howto')"
  else if strip f.title = "" then some "title is required"
  else if maxTitle < (strip f.title).length then some s!"title over {maxTitle} chars"
  else if maxBody < f.bodyMd.length then some s!"body over {maxBody} chars"
  else none

/-- The row the database returns. -/
def newReport (env : Env) (f : Fields) : Report where
  reportId := env.reportId
  kind := f.kind
  title := strip f.title
  bodyMd := f.bodyMd
  pageRoute := String.ofList (f.pageRoute.toList.take 300)
  pageLabel := String.ofList (f.pageLabel.toList.take 120)
  blocksTrading := f.blocksTrading
  context := f.context
  status := "new"
  replyMd := none
  repliedAt := none
  unreadReply := false
  createdAt := env.now
  updatedAt := env.now

structure PublicReport where
  id : String
  reportId : Nat
  kind : String
  title : String
  bodyMd : String
  pageRoute : String
  pageLabel : String
  blocksTrading : Bool
  context : Dict String Json
  status : String
  replyMd : Option String
  repliedAt : Option String
  unreadReply : Bool
  images : Nat
  createdAt : String
  updatedAt : String

def publicId (reportId : Nat) : String :=
  let ds := Nat.toDigits 10 reportId
  "FB-" ++ String.ofList (List.replicate (4 - ds.length) '0' ++ ds)

def row (r : Report) (imageCount : Nat) : PublicReport where
  id := publicId r.reportId
  reportId := r.reportId
  kind := r.kind
  title := r.title
  bodyMd := r.bodyMd
  pageRoute := r.pageRoute
  pageLabel := r.pageLabel
  blocksTrading := r.blocksTrading
  context := r.context
  status := r.status
  replyMd := r.replyMd
  repliedAt := r.repliedAt
  unreadReply := r.unreadReply
  images := imageCount
  createdAt := r.createdAt
  updatedAt := r.updatedAt

/-- `for seq, img in enumerate(images)`, from `seq` on. -/
def insertImages (env : Env) (reportId : Nat) (seq : Nat) : List Image → Act Unit
  | [] => pure ()
  | img :: imgs => do
    send unusable (env.failure (.insertImage seq)) (.image ⟨reportId, seq, img.mime, img.bytes⟩)
    insertImages env reportId (seq + 1) imgs

/-- The statements and the commit. -/
def insertRows (env : Env) (report : Report) (images : List Image) : Act PublicReport := do
  check (env.failure .cursor)
  tryFinally
    (do
      send unusable (env.failure .insertReport) (.report report)
      check (env.failure .fetchone)
      insertImages env report.reportId 0 images)
    (check (env.failure .closeCursor))
  commit unusable Store.apply (env.failure .commit)
  check (env.failure .row)
  pure (row report images.length)

def insertReport (env : Env) (f : Fields) (images : List Image) : Act PublicReport :=
  match refuse f with
  | some text => raise (.validation text)
  | none => insertRows env (newReport env f) images

/-! ## The router -/

inductive Answer
  | ok (report : PublicReport)
  | error (status : Nat) (detail : String)

def notMigratedDetail : String :=
  "feedback store not migrated: ops_feedback is missing in Golden Source — run db-init"

def storeDown (e : DbError) : Answer :=
  if e.pgcode = some "42P01" ∨ e.pgcode = some "3F000" then .error 503 notMigratedDetail
  else .error 503 s!"feedback store error: {e.message}"

abbrev Body := Dict String Json

section

variable (container : Json → String)

/-- `str(body.get(k) or "")`. -/
def textOf (body : Body) (k : String) : String := (Json.getOr body k (.str "")).text container

def fieldsOf (body : Body) : Fields where
  kind := textOf container body "kind"
  title := textOf container body "title"
  bodyMd := textOf container body "body_md"
  pageRoute := textOf container body "page_route"
  pageLabel := textOf container body "page_label"
  blocksTrading := (Json.getD body "blocks_trading" .null).truthy
  context := ((body.lookup "context").bind Json.items?).getD []

/-- The `except` clauses. -/
def answered : Except Failure PublicReport × FeedbackDb → Answer × FeedbackDb
  | (.ok report, d) => (.ok report, d)
  | (.error (.validation text), d) => (.error 400 text, d)
  | (.error (.database e), d) => (storeDown e, d)

def postReport (pool : Pool Write) (env : Env) (body : Body) (d : FeedbackDb) : Answer × FeedbackDb :=
  match decodeImages container (body.lookup "images") with
  | .error text => (.error 400 text, d)
  | .ok images =>
    answered (withConn pool ((env.failure .pool).or (env.failure .getconn)) (env.failure .putconn)
      (insertReport env (fieldsOf container body) images) d)

end

/-! ## What is promised -/

section

variable (container : Json → String)

/-- `img` is what `item` holds, and may be stored. -/
structure ImageOf (item : Json) (img : Image) : Prop where
  fields : ∃ kvs, item = .obj kvs ∧ img.mime = lower (strip (textOf container kvs "mime")) ∧
    b64decode (textOf container kvs "data_b64") = some img.bytes
  mime : startsWith img.mime "image/" = true
  bytes : img.bytes ≠ [] ∧ img.bytes.length ≤ maxImageBytes

/-- The fields are within the contract. -/
structure Fields.Valid (f : Fields) : Prop where
  kind : f.kind ∈ kinds
  title : strip f.title ≠ "" ∧ (strip f.title).length ≤ maxTitle
  bodyMd : f.bodyMd.length ≤ maxBody

/-- The body passes validation; `images` are its images in the order sent. -/
structure Accepted (body : Body) (images : List Image) : Prop where
  count : images.length ≤ maxImages
  images : List.Forall₂ (ImageOf container) (listOf (body.lookup "images")) images
  fields : (fieldsOf container body).Valid

end

/-- The report and its images, under their places in the list. -/
def Store.add (s : Store) (r : Report) (images : List Image) : Store where
  reports := s.reports ++ [r]
  images := s.images ++ images.mapIdx fun seq img => ⟨r.reportId, seq, img.mime, img.bytes⟩

structure Request where
  env : Env
  body : Body

def step (container : Json → String) (pool : Pool Write) (d : FeedbackDb) (rq : Request) : FeedbackDb :=
  (postReport container pool rq.env rq.body d).2

/-- What one request does to the store and to the pool. -/
structure Atomic (container : Json → String) (pool : Pool Write) (d : FeedbackDb) (rq : Request) : Prop where
  allOrNothing : (step container pool d rq).committed = d.committed ∨ ∃ images, Accepted container rq.body images ∧
    (step container pool d rq).committed = d.committed.add (newReport rq.env (fieldsOf container rq.body)) images
  ok : ∀ report, (postReport container pool rq.env rq.body d).1 = .ok report → ∃ images,
    Accepted container rq.body images ∧
    (step container pool d rq).committed = d.committed.add (newReport rq.env (fieldsOf container rq.body)) images ∧
    report = row (newReport rq.env (fieldsOf container rq.body)) images.length
  refused : (¬ ∃ images, Accepted container rq.body images) →
    (step container pool d rq).issued = d.issued ∧ (step container pool d rq).committed = d.committed
  served : (∀ p, rq.env.fault p = none) → (∃ images, Accepted container rq.body images) →
    ∃ report, (postReport container pool rq.env rq.body d).1 = .ok report
  clean : (step container pool d rq).Clean

/-! ## Validation -/

section

variable {container : Json → String}

theorem decodeImage_iff {i : Nat} {item : Json} {img : Image} :
    decodeImage container i item = .ok img ↔ ImageOf container item img := by
  constructor
  · intro h
    rw [decodeImage] at h
    split at h
    · cases h
    · rename_i kvs hitem
      dsimp only at h
      split at h
      · rename_i hmime
        split at h
        · cases h
        · rename_i data hdata
          split at h
          · cases h
          · rename_i hne
            split at h
            · cases h
            · rename_i hlen
              rw [Except.ok.injEq] at h
              subst h
              exact ⟨⟨kvs, Json.items?_eq_some.1 hitem, rfl, hdata⟩, hmime, hne, not_lt.1 hlen⟩
      · cases h
  · rintro ⟨⟨kvs, rfl, hmime, hdata⟩, himage, hne, hlen⟩
    obtain ⟨mime, bytes⟩ := img
    subst hmime
    unfold textOf at himage hdata
    rw [decodeImage, Json.items?]
    simp only [himage, if_true, hdata, if_neg hne, if_neg (not_lt.2 hlen)]
    rfl

theorem decodeItems_iff {items : List Json} {images : List Image} {i : Nat} :
    decodeItems container i items = .ok images ↔ List.Forall₂ (ImageOf container) items images := by
  induction items generalizing i images with
  | nil =>
    rw [decodeItems, Except.ok.injEq, List.forall₂_nil_left_iff]
    exact eq_comm
  | cons item items ih =>
    rw [decodeItems]
    constructor
    · intro h
      cases himg : decodeImage container i item with
      | error text =>
        rw [himg] at h
        cases h
      | ok img =>
        cases himgs : decodeItems container (i + 1) items with
        | error text =>
          rw [himg, himgs] at h
          cases h
        | ok imgs =>
          rw [himg, himgs] at h
          cases h
          exact .cons (decodeImage_iff.1 himg) (ih.1 himgs)
    · intro h
      cases h with
      | cons himg himgs =>
        rw [decodeImage_iff.2 himg, ih.2 himgs]
        rfl

theorem decodeImages_iff {raw : Option Json} {images : List Image} :
    decodeImages container raw = .ok images ↔
      images.length ≤ maxImages ∧ List.Forall₂ (ImageOf container) (listOf raw) images := by
  rw [decodeImages]
  split
  · rename_i hmany
    refine iff_of_false (fun h => by cases h) fun ⟨hlen, hall⟩ => ?_
    rw [hall.length_eq] at hmany
    exact absurd hlen (not_le.2 hmany)
  · rename_i hfew
    rw [decodeItems_iff]
    exact ⟨fun h => ⟨h.length_eq ▸ not_lt.1 hfew, h⟩, And.right⟩

theorem refuse_eq_none {f : Fields} : refuse f = none ↔ f.Valid := by
  rw [refuse]
  constructor
  · intro h
    split at h
    · cases h
    · rename_i hkind
      split at h
      · cases h
      · rename_i hempty
        split at h
        · cases h
        · rename_i htitle
          split at h
          · cases h
          · rename_i hbody
            exact ⟨not_not.1 hkind, ⟨hempty, not_lt.1 htitle⟩, not_lt.1 hbody⟩
  · rintro ⟨hkind, ⟨hempty, htitle⟩, hbody⟩
    rw [if_neg (not_not.2 hkind), if_neg hempty, if_neg (not_lt.2 htitle), if_neg (not_lt.2 hbody)]

theorem accepted_iff {body : Body} {images : List Image} : Accepted container body images ↔
    decodeImages container (body.lookup "images") = .ok images ∧ refuse (fieldsOf container body) = none := by
  rw [decodeImages_iff, refuse_eq_none]
  exact ⟨fun h => ⟨⟨h.count, h.images⟩, h.fields⟩, fun ⟨⟨hcount, himages⟩, hfields⟩ => ⟨hcount, himages, hfields⟩⟩

end

/-! ## The transaction -/

/-- The rows of the images from `seq` on. -/
def imageRows (reportId seq : Nat) (images : List Image) : List ReportImage :=
  images.mapIdx fun i img => ⟨reportId, seq + i, img.mime, img.bytes⟩

theorem imageRows_cons (reportId seq : Nat) (img : Image) (imgs : List Image) :
    imageRows reportId seq (img :: imgs) =
      ⟨reportId, seq, img.mime, img.bytes⟩ :: imageRows reportId (seq + 1) imgs := by
  rw [imageRows, List.mapIdx_cons, imageRows]
  simp only [Nat.add_zero, Nat.add_assoc, Nat.add_comm 1]

theorem foldl_apply_images (rows : List ReportImage) (s : Store) :
    (rows.map Write.image).foldl Store.apply s = { s with images := s.images ++ rows } := by
  induction rows generalizing s with
  | nil => rw [List.append_nil]; rfl
  | cons r rows ih =>
    rw [List.map_cons, List.foldl_cons, ih, Store.apply]
    simp only [List.append_assoc, List.singleton_append]

/-- The writes of a report, all applied. -/
theorem foldl_apply_report (s : Store) (r : Report) (images : List Image) :
    (.report r :: (imageRows r.reportId 0 images).map Write.image).foldl Store.apply s = s.add r images := by
  rw [List.foldl_cons, foldl_apply_images, Store.apply, Store.add, imageRows]
  simp only [Nat.zero_add]

variable {env : Env} {s : Store}

theorem insertImages_spec (reportId : Nat) (images : List Image) (seq : Nat) (ws : List Write) :
    Triple (Holds s ws) (insertImages env reportId seq images)
      (fun _ => Holds s (ws ++ (imageRows reportId seq images).map Write.image))
      (fun _ d => d.committed = s ∧ d.Clean) := by
  induction images generalizing seq ws with
  | nil =>
    rw [imageRows, List.mapIdx_nil, List.map_nil, List.append_nil]
    exact Triple.pure fun d hd => hd
  | cons img imgs ih =>
    rw [imageRows_cons, List.map_cons, List.append_cons]
    exact (send_spec _).bind fun _ => ih (seq + 1) _

/-- What `insertRows` returns is committed; what fails is committed in full or not at all. -/
theorem insertRows_spec (report : Report) (images : List Image) :
    Triple (Holds s []) (insertRows env report images)
      (fun answer d => (d.committed = s.add report images ∧ answer = row report images.length) ∧ d.Clean)
      (fun _ d => (d.committed = s ∨ d.committed = s.add report images) ∧ d.Clean) := by
  have hnothing : ∀ d : FeedbackDb, d.committed = s ∧ d.Clean →
      (d.committed = s ∨ d.committed = s.add report images) ∧ d.Clean := fun d h => ⟨Or.inl h.1, h.2⟩
  have hheld : ∀ ws, ∀ d : FeedbackDb, Holds s ws d → d.committed = s ∧ d.Clean := fun ws d h => ⟨h.committed, h.clean⟩
  have hwrites : Triple (Holds s []) (do
        send unusable (env.failure .insertReport) (.report report)
        check (env.failure .fetchone)
        insertImages env report.reportId 0 images)
      (fun _ => Holds s (.report report :: (imageRows report.reportId 0 images).map Write.image))
      (fun _ d => d.committed = s ∧ d.Clean) := by
    refine (send_spec _).bind fun _ => ?_
    exact (check_spec fun _ d hd => hheld _ d hd).bind fun _ => insertImages_spec _ _ _ _
  have hclose : ∀ P : FeedbackDb → Prop, (∀ d, P d → d.committed = s ∧ d.Clean) → Triple P
      (check (env.failure .closeCursor)) (fun _ => P) (fun _ d => d.committed = s ∧ d.Clean) :=
    fun _ h => check_spec fun _ d hd => h d hd
  have hcursor := hwrites.tryFinally (fun _ => hclose _ (hheld _)) fun _ => hclose _ fun _ hd => hd
  refine (check_spec fun _ d hd => hnothing d (hheld _ d hd)).bind fun _ => ?_
  refine (hcursor.mono (fun _ h => h) (fun _ _ h => h) fun _ d h => hnothing d h).bind fun _ => ?_
  refine ((commit_spec Store.apply).mono (fun _ h => h) (fun _ _ h => h) fun _ d h => ?_).bind fun _ => ?_
  · rwa [foldl_apply_report] at h
  · rw [foldl_apply_report]
    refine (check_spec fun _ d hd => ⟨Or.inr hd.1, hd.2⟩).bind fun _ => ?_
    exact Triple.pure fun d hd => ⟨⟨hd.1, rfl⟩, hd.2⟩

/-- Where nothing fails the images are all sent. -/
theorem insertImages_returns (hok : ∀ p, env.failure p = none) (reportId : Nat) (images : List Image) (seq : Nat) :
    Triple Db.Takes (insertImages env reportId seq images) (fun _ => Db.Takes) (fun _ _ => False) := by
  induction images generalizing seq with
  | nil => exact Triple.pure fun _ hd => hd
  | cons img imgs ih =>
    unfold insertImages
    rw [hok]
    exact (send_returns _).bind fun _ => ih (seq + 1)

theorem insertRows_returns (hok : ∀ p, env.failure p = none) (report : Report) (images : List Image) :
    Triple Db.Takes (insertRows env report images) (fun _ _ => True) (fun _ _ => False) := by
  unfold insertRows
  simp only [hok]
  have hwrites : Triple Db.Takes (do
        send unusable none (.report report)
        check none
        insertImages env report.reportId 0 images)
      (fun _ => Db.Takes) (fun _ _ => False) :=
    (send_returns _).bind fun _ => check_returns.bind fun _ => insertImages_returns hok _ _ _
  refine check_returns.bind fun _ => ?_
  refine (hwrites.tryFinally (fun _ => check_returns) fun _ _ hnone => hnone.elim).bind fun _ => ?_
  exact (commit_returns _).bind fun _ => check_returns.bind fun _ => Triple.pure fun _ _ => trivial

/-! ## The request -/

theorem answered_snd (r : Except Failure PublicReport × FeedbackDb) : (answered r).2 = r.2 := by
  obtain ⟨(_ | _) | _, _⟩ := r <;> rfl

/-- Only a report that was returned is answered with `ok`. -/
theorem answered_ok {r : Except Failure PublicReport × FeedbackDb} {report : PublicReport}
    (h : (answered r).1 = .ok report) : r.1 = .ok report := by
  obtain ⟨(text | e) | answer, d⟩ := r
  · cases h
  · rw [answered, storeDown] at h
    split at h <;> cases h
  · rw [answered] at h
    exact congrArg Except.ok (Answer.ok.inj h)

section

variable {container : Json → String} {pool : Pool Write} {rq : Request} {d : FeedbackDb} {images : List Image}

theorem postReport_of_images (pool : Pool Write) (d : FeedbackDb)
    (himages : decodeImages container (rq.body.lookup "images") = .ok images) :
    postReport container pool rq.env rq.body d = answered
      (withConn pool ((rq.env.failure .pool).or (rq.env.failure .getconn)) (rq.env.failure .putconn)
        (insertReport rq.env (fieldsOf container rq.body) images) d) := by
  rw [postReport, himages]

/-- An accepted body is answered with `ok` where nothing fails. -/
theorem served_of_accepted (hclean : d.Clean) (h : Accepted container rq.body images)
    (hok : ∀ p, rq.env.fault p = none) : ∃ report, (postReport container pool rq.env rq.body d).1 = .ok report := by
  have hnone : ∀ p, rq.env.failure p = none := fun p => by rw [Env.failure, hok p]; rfl
  obtain ⟨himages, hrefuse⟩ := accepted_iff.1 h
  have hinsert : Triple Db.Takes (insertReport rq.env (fieldsOf container rq.body) images) (fun _ _ => True)
      (fun _ _ => False) := by
    rw [insertReport, hrefuse]
    exact insertRows_returns hnone _ _
  have hend := withConn_returns pool hinsert d hclean
  have hpost := postReport_of_images pool d himages
  rw [hnone, hnone, hnone, Option.or_none] at hpost
  rw [hpost]
  generalize withConn pool _ _ (insertReport rq.env (fieldsOf container rq.body) images) d = r at hend ⊢
  obtain ⟨e | answer, d'⟩ := r
  · exact hend.elim
  · exact ⟨answer, rfl⟩

/-- An accepted body is stored in full or not at all, and in full when it is answered with `ok`. -/
theorem atomic_of_accepted (hclean : d.Clean) (h : Accepted container rq.body images) :
    Atomic container pool d rq := by
  obtain ⟨himages, hrefuse⟩ := accepted_iff.1 h
  set report := newReport rq.env (fieldsOf container rq.body) with hreport
  have hinsert : Triple (fun d' => d'.committed = d.committed ∧ d'.conn = .idle ∧ d'.Clean)
      (insertReport rq.env (fieldsOf container rq.body) images)
      (fun answer d' => (d'.committed = d.committed.add report images ∧ answer = row report images.length) ∧ d'.Clean)
      (fun _ d' => (d'.committed = d.committed ∨ d'.committed = d.committed.add report images) ∧ d'.Clean) := by
    rw [insertReport, hrefuse]
    exact (insertRows_spec _ _).mono (fun d' ⟨hc, hidle, hd'⟩ => ⟨hc, by rw [hidle]; rfl, hd'⟩) (fun _ _ h => h)
      fun _ _ h => h
  have hend := withConn_spec pool ((rq.env.failure .pool).or (rq.env.failure .getconn)) (rq.env.failure .putconn)
    (P := fun c _ => c = d.committed)
    (Q := fun answer c _ => c = d.committed.add report images ∧ answer = row report images.length)
    (R := fun c _ => c = d.committed ∨ c = d.committed.add report images)
    hinsert (fun _ _ hc => Or.inl hc) (fun _ _ _ hc => Or.inr hc.1) d ⟨rfl, hclean⟩
  have hpost := postReport_of_images pool d himages
  generalize withConn pool _ _ (insertReport rq.env (fieldsOf container rq.body) images) d = r at hend hpost
  have hstep : step container pool d rq = r.2 := by rw [step, hpost, answered_snd]
  obtain ⟨e | answer, d'⟩ := r
  · obtain ⟨hstored, hclean'⟩ := hend
    refine ⟨?_, fun report' hok => ?_, fun hnone => absurd ⟨images, h⟩ hnone,
      fun hok _ => served_of_accepted hclean h hok, ?_⟩
    · rw [hstep]
      exact hstored.imp_right fun hadd => ⟨images, h, hadd⟩
    · rw [hpost] at hok
      cases answered_ok hok
    · rw [hstep]
      exact hclean'
  · obtain ⟨⟨hadd, hanswer⟩, hclean'⟩ := hend
    refine ⟨Or.inr ⟨images, h, ?_⟩, fun report' hok => ⟨images, h, ?_, ?_⟩, fun hnone => absurd ⟨images, h⟩ hnone,
      fun hok _ => served_of_accepted hclean h hok, ?_⟩
    · rw [hstep]
      exact hadd
    · rw [hstep]
      exact hadd
    · rw [hpost] at hok
      rw [← Except.ok.inj (answered_ok hok)]
      exact hanswer
    · rw [hstep]
      exact hclean'

/-- A body that is refused issues no statement. -/
theorem atomic_of_refused (hclean : d.Clean) (h : ¬ ∃ images, Accepted container rq.body images) :
    Atomic container pool d rq := by
  have hunchanged : (∀ report, (postReport container pool rq.env rq.body d).1 ≠ .ok report) ∧
      ((step container pool d rq).committed = d.committed ∧ (step container pool d rq).issued = d.issued) ∧
      (step container pool d rq).Clean := by
    cases himages : decodeImages container (rq.body.lookup "images") with
    | error text =>
      have hpost : postReport container pool rq.env rq.body d = (.error 400 text, d) := by rw [postReport, himages]
      rw [step, hpost]
      exact ⟨fun report hok => (by cases hok), ⟨rfl, rfl⟩, hclean⟩
    | ok images =>
      obtain ⟨text, hrefuse⟩ : ∃ text, refuse (fieldsOf container rq.body) = some text :=
        Option.ne_none_iff_exists'.1 fun hnone => h ⟨images, accepted_iff.2 ⟨himages, hnone⟩⟩
      have hinsert : Triple (fun d' => (d'.committed = d.committed ∧ d'.issued = d.issued) ∧ d'.conn = .idle ∧ d'.Clean)
          (insertReport rq.env (fieldsOf container rq.body) images) (fun _ d' => False ∧ d'.Clean)
          (fun _ d' => (d'.committed = d.committed ∧ d'.issued = d.issued) ∧ d'.Clean) := by
        rw [insertReport, hrefuse]
        exact Triple.raise fun d' hd' => ⟨hd'.1, hd'.2.2⟩
      have hend := withConn_spec pool ((rq.env.failure .pool).or (rq.env.failure .getconn)) (rq.env.failure .putconn)
        (P := fun c n => c = d.committed ∧ n = d.issued) (Q := fun _ _ _ => False)
        (R := fun c n => c = d.committed ∧ n = d.issued)
        hinsert (fun _ _ hc => hc) (fun _ _ _ hc => hc.elim) d ⟨⟨rfl, rfl⟩, hclean⟩
      have hpost := postReport_of_images pool d himages
      generalize withConn pool _ _ (insertReport rq.env (fieldsOf container rq.body) images) d = r at hend hpost
      have hstep : step container pool d rq = r.2 := by rw [step, hpost, answered_snd]
      obtain ⟨e | answer, d'⟩ := r
      · rw [hstep, hpost]
        refine ⟨fun report hok => ?_, hend⟩
        cases answered_ok hok
      · exact hend.1.elim
  obtain ⟨hanswer, ⟨hstored, hissued⟩, hclean'⟩ := hunchanged
  exact ⟨Or.inl hstored, fun report hok => absurd hok (hanswer report), fun _ => ⟨hissued, hstored⟩,
    fun _ haccepted => absurd haccepted h, hclean'⟩

theorem atomic (container : Json → String) (pool : Pool Write) (rq : Request) (hclean : d.Clean) :
    Atomic container pool d rq := by
  by_cases h : ∃ images, Accepted container rq.body images
  · obtain ⟨images, himages⟩ := h
    exact atomic_of_accepted hclean himages
  · exact atomic_of_refused hclean h

end

/-! ## Every run -/

/-- A store and a pool that has no connection yet. -/
def start (s : Store) : FeedbackDb := ⟨s, .closed, [], 0⟩

/-- **Main.** Over every run of requests, whatever fails in them, each request stores its report with all its images
or nothing, answers `ok` only for what is stored and for all that is within the contract where nothing fails, issues
no statement for a body it refuses, and leaves no transaction to the next borrower. -/
theorem reportAtomic (container : Json → String) (pool : Pool Write) (s : Store) (requests : List Request) :
    Run.Along (step container pool) (Atomic container pool) (start s) requests := by
  refine Run.along_of_invariant (I := Db.Clean) (fun d rq hd => (atomic container pool rq hd).clean)
    (fun d rq hd => atomic container pool rq hd) ?_
  exact fun c hc => absurd hc List.not_mem_nil

/-! ## Three requests -/

/-- A report with two images, of which the database refuses the second. -/
def refusedImage : Request where
  env := ⟨7, "2026-10-04T00:00:00+00:00", fun p => match p with
    | .insertImage 1 => some ⟨⟨some "23505", "duplicate key"⟩, .refused⟩
    | _ => none⟩
  body := [("kind", .str "bug"), ("title", .str "chart"), ("images", .arr [
    .obj [("mime", .str "image/png"), ("data_b64", .str "dGlueQ==")],
    .obj [("mime", .str "image/gif"), ("data_b64", .str "dGlueQ==")]])]

/-- The same report again, while nothing fails, and one without a title. -/
def threeRequests : List Request :=
  [refusedImage, { refusedImage with env := ⟨8, "2026-10-04T00:01:00+00:00", fun _ => none⟩ },
    ⟨⟨9, "2026-10-04T00:02:00+00:00", fun _ => none⟩, [("kind", .str "bug"), ("title", .str "  ")]⟩]

/-- Only the second is stored, with both images, and no transaction is left in the pool. -/
example : ((Run.run (step (fun _ => "") rollbackPool) (start ⟨[], []⟩) threeRequests).committed.images.map fun i =>
    (i.reportId, i.seq, i.mime)) = [(8, 0, "image/png"), (8, 1, "image/gif")] := by decide +kernel

theorem reportAtomic_threeRequests :
    Run.Along (step (fun _ => "") rollbackPool) (Atomic (fun _ => "") rollbackPool) (start ⟨[], []⟩) threeRequests :=
  reportAtomic (fun _ => "") rollbackPool ⟨[], []⟩ threeRequests

end BifrostApi.Research.Feedback
