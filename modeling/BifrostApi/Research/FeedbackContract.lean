import BifrostApi.Research.FeedbackTriage

/-!
# What the feedback store holds and shows (`research/feedback_store.py`, `research/routers/feedback.py`)

`contract_run`: every row of the store is within the contract, whatever fails in the requests that made it. `fetched`:
the images of a report are served as they were sent, whatever has happened to it since. Any `image/*` may be sent, but
`Response` writes its media type as latin-1, outside the `try`: an image whose type has another character is stored
and answered with a 500 (`imageAnswer`).

| here | there |
| --- | --- |
| `query` | a `SELECT` in `with get_conn()` |
| `getImage`, `getReportImage` | `get_image`, `get_report_image` |
-/

namespace BifrostApi.Research.Feedback

open Py Py.Number Hoare Transaction

/-! ## What holds of every row -/

/-- A row is within the contract, whatever has been done to it. -/
structure ReportOk (r : Report) : Prop where
  id : 0 < r.reportId ∧ r.reportId < maxReportId
  kind : r.kind ∈ kinds
  title : strip r.title = r.title ∧ r.title ≠ "" ∧ r.title.length ≤ maxTitle
  bodyMd : r.bodyMd.length ≤ maxBody
  page : r.pageRoute.length ≤ 300 ∧ r.pageLabel.length ≤ 120
  status : r.status ∈ statuses
  reply : ∀ text, r.replyMd = some text → strip text = text ∧ text ≠ ""
  replied : r.replyMd.isSome = r.repliedAt.isSome

structure ImageOk (mime : String) (bytes : List UInt8) : Prop where
  mime : startsWith mime "image/" = true
  bytes : bytes ≠ [] ∧ bytes.length ≤ maxImageBytes

structure Contract (s : Store) : Prop where
  ids : (s.reports.map (·.reportId)).Nodup
  reports : ∀ r ∈ s.reports, ReportOk r
  images : ∀ i ∈ s.images, i.reportId ∈ s.reports.map (·.reportId) ∧ ImageOk i.mime i.bytes
  /-- The images of a report are numbered from 0. -/
  numbered : ∀ reportId ∈ s.reports.map (·.reportId), ∃ n ≤ maxImages,
    (s.images.filter (·.reportId = reportId)).map (·.seq) = List.range n

/-- The database gives a new report an id it has not given before. -/
def Fresh (sys : System) : Call → Prop
  | .report env _ => (0 < env.reportId ∧ env.reportId < maxReportId) ∧
      env.reportId ∉ sys.store.reports.map (·.reportId)
  | _ => True

def TouchOk : Touch → Prop
  | .status s => s ∈ statuses
  | .reply text => strip text = text ∧ text ≠ ""
  | .read => True

def EffectOk (s : Store) : Effect → Prop
  | .filed report images => ReportOk report ∧ report.reportId ∉ s.reports.map (·.reportId) ∧
      images.length ≤ maxImages ∧ ∀ img ∈ images, ImageOk img.mime img.bytes
  | .touched u => TouchOk u.touch

section Contracts

variable {container : Json → String} {pool : (ω : Type) → Pool ω} {sys : System} {s : Store} {r : Report}

theorem reportOk_newReport {env : Env} {f : Fields} (hf : f.Valid)
    (hid : 0 < env.reportId ∧ env.reportId < maxReportId) : ReportOk (newReport env f) where
  id := hid
  kind := hf.kind
  title := ⟨strip_strip f.title, hf.title⟩
  bodyMd := hf.bodyMd
  page := by
    constructor
    · rw [newReport, String.length_ofList, List.length_take]
      exact min_le_left _ _
    · rw [newReport, String.length_ofList, List.length_take]
      exact min_le_left _ _
  status := by
    change "new" ∈ statuses
    decide
  reply := fun text h => by cases h
  replied := rfl

theorem reportOk_apply {t : Touch} (ht : TouchOk t) (now : String) (h : ReportOk r) : ReportOk (t.apply now r) := by
  cases t with
  | status s => exact ⟨h.id, h.kind, h.title, h.bodyMd, h.page, ht, h.reply, h.replied⟩
  | reply text =>
    refine ⟨h.id, h.kind, h.title, h.bodyMd, h.page, h.status, fun text' htext => ?_, rfl⟩
    obtain rfl : text = text' := Option.some.inj htext
    exact ht
  | read => exact ⟨h.id, h.kind, h.title, h.bodyMd, h.page, h.status, h.reply, h.replied⟩

theorem contract_touched (h : Contract s) {u : Update} (hu : TouchOk u.touch) : Contract (s.update u) := by
  have hids := ids_update s u
  refine ⟨by rw [hids]; exact h.ids, ?_, by rw [hids]; exact h.images, by rw [hids]; exact h.numbered⟩
  intro r' hr'
  obtain ⟨r, hr, rfl⟩ := List.mem_map.1 hr'
  unfold Update.applyTo
  split
  · exact reportOk_apply hu u.now (h.reports r hr)
  · exact h.reports r hr

theorem filter_imageRows (reportId : Nat) (images : List Image) (other : Nat) :
    (imageRows reportId 0 images).filter (·.reportId = other) =
      if reportId = other then imageRows reportId 0 images else [] := by
  have hrow : ∀ i ∈ imageRows reportId 0 images, i.reportId = reportId := fun i hi => reportId_of_mem_imageRows hi
  split
  · rename_i heq
    exact List.filter_eq_self.2 fun i hi => decide_eq_true ((hrow i hi).trans heq)
  · rename_i hne
    exact List.filter_eq_nil_iff.2 fun i hi hother => hne ((hrow i hi).symm.trans (of_decide_eq_true hother))

theorem seq_imageRows (reportId : Nat) (images : List Image) :
    (imageRows reportId 0 images).map (·.seq) = List.range images.length := by
  refine List.ext_getElem (by simp [imageRows]) fun i hi hi' => ?_
  simp [imageRows]

theorem contract_filed (h : Contract s) {images : List Image} (hr : ReportOk r)
    (hfresh : r.reportId ∉ s.reports.map (·.reportId)) (hlen : images.length ≤ maxImages)
    (hok : ∀ img ∈ images, ImageOk img.mime img.bytes) : Contract (s.add r images) := by
  have hids : (s.add r images).reports.map (·.reportId) = s.reports.map (·.reportId) ++ [r.reportId] := by
    rw [Store.add, List.map_append]
    rfl
  -- a new report has no image yet
  have hnone : s.images.filter (·.reportId = r.reportId) = [] :=
    List.filter_eq_nil_iff.2 fun i hi hmine => hfresh (of_decide_eq_true hmine ▸ (h.images i hi).1)
  refine ⟨?_, ?_, ?_, ?_⟩
  · rw [hids]
    refine List.nodup_append.2 ⟨h.ids, List.nodup_singleton _, fun a ha b hb heq => ?_⟩
    rw [List.mem_singleton.1 hb] at heq
    exact hfresh (heq ▸ ha)
  · intro r' hr'
    rcases List.mem_append.1 hr' with hold | hnew
    · exact h.reports r' hold
    · rw [List.mem_singleton.1 hnew]
      exact hr
  · intro i hi
    rw [hids]
    rw [images_add] at hi
    rcases List.mem_append.1 hi with hold | hnew
    · exact ⟨List.mem_append_left _ (h.images i hold).1, (h.images i hold).2⟩
    · obtain ⟨j, hj, rfl⟩ := List.mem_mapIdx.1 hnew
      exact ⟨List.mem_append_right _ (List.mem_singleton.2 rfl), hok _ (List.getElem_mem hj)⟩
  · intro reportId hmem
    rw [hids] at hmem
    rw [images_add, List.filter_append, filter_imageRows]
    rcases List.mem_append.1 hmem with hold | hnew
    · have hne : r.reportId ≠ reportId := fun heq => hfresh (heq ▸ hold)
      rw [if_neg hne, List.append_nil]
      exact h.numbered reportId hold
    · obtain rfl : reportId = r.reportId := List.mem_singleton.1 hnew
      rw [hnone, List.nil_append, if_pos rfl, seq_imageRows]
      exact ⟨images.length, hlen, rfl⟩

theorem contract_take (h : Contract s) {e : Effect} (he : EffectOk s e) : Contract (s.take e) := by
  cases e with
  | filed report images => exact contract_filed h he.1 he.2.1 he.2.2.1 he.2.2.2
  | touched u => exact contract_touched h he

theorem touchOk_statusTouch {status : String} {t : Touch} (h : statusTouch status = .ok t) : TouchOk t := by
  unfold statusTouch at h
  split at h
  · rename_i hmem
    rw [Except.ok.injEq] at h
    subst h
    exact hmem
  · cases h

theorem touchOk_replyTouch {replyMd : String} {t : Touch} (h : replyTouch replyMd = .ok t) : TouchOk t := by
  unfold replyTouch at h
  split at h
  · cases h
  · rename_i hne
    rw [Except.ok.injEq] at h
    subst h
    exact ⟨strip_strip replyMd, hne⟩

theorem effectOk_touchEffect {env : TouchEnv} {rawId : String} {touch : Except String Touch} {e : Effect}
    (hok : ∀ t, touch = .ok t → TouchOk t) (h : touchEffect env rawId touch = some e) : EffectOk s e := by
  unfold touchEffect at h
  split at h
  · rename_i reportId t _
    obtain rfl := Option.some.inj h
    exact hok t rfl
  · cases h

theorem imageOk_of_accepted {items : List Json} {images : List Image}
    (h : List.Forall₂ (ImageOf container) items images) : ∀ img ∈ images, ImageOk img.mime img.bytes := by
  induction h with
  | nil => exact fun img himg => absurd himg List.not_mem_nil
  | cons hitem _ ih =>
    intro img himg
    rcases List.mem_cons.1 himg with rfl | hrest
    · exact ⟨hitem.mime, hitem.bytes⟩
    · exact ih img hrest

/-- What a request asks for is within the contract. -/
theorem effectOk_of_asks {call : Call} {e : Effect} (hfresh : Fresh sys call)
    (h : call.asks container = some e) : EffectOk sys.store e := by
  cases call with
  | report env body =>
    rw [Call.asks] at h
    split at h
    · cases h
    · rename_i images himages
      split at h
      · cases h
      · rename_i hrefuse
        obtain rfl := Option.some.inj h
        have haccepted : Accepted container body images := accepted_iff.2 ⟨himages, hrefuse⟩
        refine ⟨reportOk_newReport haccepted.fields hfresh.1, hfresh.2, haccepted.count, fun img himg => ?_⟩
        exact imageOk_of_accepted haccepted.images img himg
  | read env rawId =>
    have hread : touchEffect env rawId (.ok .read) = some e := h
    refine effectOk_touchEffect (fun t ht => ?_) hread
    rw [Except.ok.injEq] at ht
    subst ht
    trivial
  | status env rawId body =>
    have hstatus : touchEffect env rawId (statusTouch (textOf container body "status")) = some e := h
    exact effectOk_touchEffect (fun _ => touchOk_statusTouch) hstatus
  | reply env rawId body =>
    have hreply : touchEffect env rawId (replyTouch (textOf container body "reply_md")) = some e := h
    exact effectOk_touchEffect (fun _ => touchOk_replyTouch) hreply

theorem contract_serve (h : Contract sys.store) {call : Call} (hfresh : Fresh sys call) :
    Contract (serve container pool sys call).store := by
  rcases serve_cases container pool sys call with ⟨-, hsame⟩ | ⟨e, hasks, hstored⟩
  · rw [hsame]
    exact h
  · rw [hstored]
    exact contract_take h (effectOk_of_asks hfresh hasks)

theorem contract_empty : Contract ⟨[], []⟩ :=
  ⟨List.nodup_nil, fun _ h => absurd h List.not_mem_nil, fun _ h => absurd h List.not_mem_nil,
    fun _ h => absurd h List.not_mem_nil⟩

/-- **Main.** From an empty store, every row of every state reached is within the contract, whatever fails in the
requests and whatever is asked of them, as long as the database gives each report an id of its own. -/
theorem contract_run (container : Json → String) (pool : (ω : Type) → Pool ω) (idle : Nat) (calls : List Call)
    (hfresh : Run.Along (serve container pool) Fresh ⟨⟨[], []⟩, idle⟩ calls) :
    Run.Always (serve container pool) (fun sys => Contract sys.store) ⟨⟨[], []⟩, idle⟩ calls :=
  Run.always_of_along (I := fun sys => Contract sys.store) (C := Fresh) (fun _ _ h hf => contract_serve h hf)
    contract_empty hfresh

end Contracts

/-! ## Images -/

/-- The rows a statement finds; it has no writes, so the pool has nothing to roll back. -/
def look {α : Type} (f : Store → α) : Prog TriageDb Failure α := fun d => (.ok (f d.committed), d)

def query {α : Type} (env : TouchEnv) (f : Store → α) : Prog TriageDb Failure α := do
  check (env.failure .cursor)
  let rows ← tryFinally
    (do
      check (env.failure .execute)
      let rows ← look f
      check (env.failure .fetchone)
      pure rows)
    (check (env.failure .closeCursor))
  check (env.failure .row)
  pure rows

def Store.image? (s : Store) (reportId : Nat) (seq : Int) : Option ReportImage :=
  s.images.find? fun i => i.reportId = reportId ∧ (i.seq : Int) = seq

def getImage (env : TouchEnv) (reportId : Nat) (seq : Int) : Prog TriageDb Failure (Option ReportImage) :=
  query env fun s => s.image? reportId seq

/-- A response without a body, or an image. -/
inductive ImageAnswer
  | status (code : Nat)
  | served (mime : String) (bytes : List UInt8)
  deriving DecidableEq

/-- The text of a header. -/
def IsLatin1 (s : String) : Prop := ∀ c ∈ s.toList, c.toNat < 256

theorem all_isLatin1 (s : String) : (s.toList.all fun c => c.toNat < 256) = true ↔ IsLatin1 s := by
  simp [IsLatin1]

instance (s : String) : Decidable (IsLatin1 s) := decidable_of_iff _ (all_isLatin1 s)

/-- `Response(content=…, media_type=…)`; its `UnicodeEncodeError` is caught by no one. -/
def imageAnswer : Option ReportImage → ImageAnswer
  | none => .status 404
  | some img => if IsLatin1 img.mime then .served img.mime img.bytes else .status 500

def getReportImage (pool : Pool Update) (env : TouchEnv) (rawId : String) (seq : Int) (d : TriageDb) : ImageAnswer :=
  match parsePublicId rawId with
  | none => .status 404
  | some reportId =>
    match (withConn pool ((env.failure .pool).or (env.failure .getconn)) (env.failure .putconn)
      (getImage env reportId seq) d).1 with
    | .error _ => .status 503
    | .ok img => imageAnswer img

section Images

variable {container : Json → String} {pool : (ω : Type) → Pool ω} {sys : System}

/-- A read in which nothing fails returns what the statement finds. -/
theorem withConn_query {α : Type} {env : TouchEnv} (hok : ∀ p, env.fault p = none) (pool : Pool Update) (f : Store → α)
    (d : TriageDb) : (withConn pool ((env.failure .pool).or (env.failure .getconn)) (env.failure .putconn)
      (query env f) d).1 = .ok (f d.committed) := by
  have hnone : ∀ p, env.failure p = none := fun p => by rw [TouchEnv.failure, hok p]; rfl
  unfold query
  simp only [hnone]
  obtain ⟨committed, conn, pooled, issued⟩ := d
  cases pooled <;> rfl

/-- What was sent as image `seq`, as far as its type can be written. -/
def sentImage (images : List Image) : Int → ImageAnswer
  | .ofNat i => match images[i]? with
    | some img => if IsLatin1 img.mime then .served img.mime img.bytes else .status 500
    | none => .status 404
  | .negSucc _ => .status 404

theorem find?_imageRows (reportId : Nat) (images : List Image) : ∀ seq i : Nat,
    (imageRows reportId seq images).find? (fun r => r.reportId = reportId ∧ (r.seq : Int) = (seq + i : Nat)) =
      images[i]?.map fun img => ⟨reportId, seq + i, img.mime, img.bytes⟩ := by
  induction images with
  | nil => exact fun _ _ => rfl
  | cons img images ih =>
    intro seq i
    rw [imageRows_cons]
    cases i with
    | zero => simp
    | succ i =>
      rw [List.find?_cons_of_neg (by simp; omega)]
      have hnext := ih (seq + 1) i
      rw [show seq + 1 + i = seq + (i + 1) by omega] at hnext
      rw [hnext, List.getElem?_cons_succ]

/-- The images of a report stand behind others' and before others'. -/
theorem image?_of_append {s : Store} {before more : List ReportImage} {reportId : Nat} {images : List Image}
    (hs : s.images = before ++ imageRows reportId 0 images ++ more) (hbefore : ∀ i ∈ before, i.reportId ≠ reportId)
    (hmore : ∀ i ∈ more, i.reportId ≠ reportId) (seq : Int) :
    imageAnswer (s.image? reportId seq) = sentImage images seq := by
  have hothers : ∀ is : List ReportImage, (∀ i ∈ is, i.reportId ≠ reportId) →
      is.find? (fun i => i.reportId = reportId ∧ (i.seq : Int) = seq) = none := by
    intro is his
    refine List.find?_eq_none.2 fun i hi hmine => his i hi ?_
    exact (of_decide_eq_true hmine).1
  have hfind : s.image? reportId seq =
      (imageRows reportId 0 images).find? fun i => i.reportId = reportId ∧ (i.seq : Int) = seq := by
    rw [Store.image?, hs, List.find?_append, List.find?_append, hothers before hbefore, hothers more hmore]
    simp
  rw [hfind]
  cases seq with
  | ofNat i =>
    have hrow := find?_imageRows reportId images 0 i
    simp only [Nat.zero_add] at hrow
    have hfound : (imageRows reportId 0 images).find? (fun r => r.reportId = reportId ∧ (r.seq : Int) = .ofNat i) =
        images[i]?.map fun img => ⟨reportId, i, img.mime, img.bytes⟩ := hrow
    rw [hfound, sentImage]
    cases images[i]? <;> rfl
  | negSucc i =>
    have hnone : (imageRows reportId 0 images).find?
        (fun r => r.reportId = reportId ∧ (r.seq : Int) = .negSucc i) = none :=
      List.find?_eq_none.2 fun r _ hr => by simpa using (of_decide_eq_true hr).2
    rw [hnone]
    rfl

/-- **Main.** A report that was answered `ok` has its images served as they were sent, under its id in any case and
with blanks around it, after any further requests, and no others under it; but for those whose type is no latin-1. -/
theorem fetched (container : Json → String) (pool : (ω : Type) → Pool ω) {sys : System} (hcontract : Contract sys.store)
    {env : Env} {body : Body} {report : PublicReport} (hfresh : Fresh sys (.report env body))
    (hok : ((Call.report env body).run container pool sys).1 = .ok report) {calls : List Call}
    (hcalls : Run.Along (serve container pool) Fresh (serve container pool sys (.report env body)) calls)
    {readEnv : TouchEnv} (hread : ∀ p, readEnv.fault p = none) {raw : String} (hraw : upper (strip raw) = report.id)
    (seq : Int) :
    ∃ images, Accepted container body images ∧
      getReportImage (pool Update) readEnv raw seq
        (Run.run (serve container pool) (serve container pool sys (.report env body)) calls).db =
      sentImage images seq := by
  have hposted := atomic container (pool Write) ⟨env, body⟩ (clean_db : (sys.db : FeedbackDb).Clean)
  obtain ⟨images, haccepted, hstored, hreport⟩ := hposted.ok report hok
  refine ⟨images, haccepted, ?_⟩
  set posted := serve container pool sys (.report env body) with hposteddef
  have hstore : posted.store = sys.store.add (newReport env (fieldsOf container body)) images := hstored
  have hid : parsePublicId raw = some env.reportId := by
    rw [hreport] at hraw
    exact parsePublicId_of_printed hfresh.1.1 hfresh.1.2 hraw
  obtain ⟨effects, heffects⟩ := tookEffect_exists container pool calls posted
  obtain ⟨hids, more, himages, hmore⟩ := replay_grows effects posted.store
  rw [← heffects.store_eq] at hids himages
  have hfinal : Contract (Run.run (serve container pool) posted calls).store :=
    (Run.always_of_along (I := fun sys => Contract sys.store) (C := Fresh) (fun _ _ h hf => contract_serve h hf)
      (contract_serve hcontract hfresh) hcalls).last
  -- no later report has this id
  have hmine : env.reportId ∈ posted.store.reports.map (·.reportId) := by
    rw [hstore, Store.add, List.map_append]
    exact List.mem_append_right _ (List.mem_singleton.2 rfl)
  have hnodup := hfinal.ids
  rw [hids] at hnodup
  have hlater : env.reportId ∉ filedIds effects := fun hmem =>
    (List.nodup_append.1 hnodup).2.2 _ hmine _ hmem rfl
  have hbefore : ∀ i ∈ sys.store.images, i.reportId ≠ env.reportId := fun i hi heq =>
    hfresh.2 (heq ▸ (hcontract.images i hi).1)
  have hafter : ∀ i ∈ more, i.reportId ≠ env.reportId := by
    intro i hi heq
    have hmem := hmore i hi
    rw [heq] at hmem
    exact hlater hmem
  rw [hstore, images_add] at himages
  have hserved : imageAnswer ((Run.run (serve container pool) posted calls).store.image? env.reportId seq) =
      sentImage images seq := image?_of_append himages hbefore hafter seq
  unfold getReportImage getImage
  simp only [hid, withConn_query hread]
  exact hserved

end Images

/-! ## Two reports with images -/

def quiet : TouchEnv := ⟨"2026-10-04T00:00:00+00:00", fun _ => none⟩

/-- One image, filed as number 7 while nothing fails. -/
def oneReport : Call :=
  .report ⟨7, "2026-10-04T00:00:00+00:00", fun _ => none⟩
    [("kind", .str "bug"), ("title", .str "chart"), ("blocks_trading", .bool true),
      ("images", .arr [.obj [("mime", .str "image/png"), ("data_b64", .str "dGlueQ==")]])]

/-- Two images, filed as number 8; the type of the second cannot be written. -/
def anotherBody : Body :=
  [("kind", .str "idea"), ("title", .str "another"), ("images", .arr [
    .obj [("mime", .str " IMAGE/GIF"), ("data_b64", .str "dGlueQ==")],
    .obj [("mime", .str "image/č"), ("data_b64", .str "dGlueQ==")]])]

def anotherEnv : Env := ⟨8, "2026-10-04T00:01:00+00:00", fun _ => none⟩

def emptySystem : System := ⟨⟨[], []⟩, 0⟩

def rollback : (ω : Type) → Pool ω := fun _ => rollbackPool

def repliedTo : List Call :=
  [.reply quiet "FB-0007" [("reply_md", .str "fixed")], .read quiet "fb-7",
    .status quiet "8" [("status", .str "fixed")]]

/-- After the first report: its id is taken, the next one is not. -/
theorem served_oneReport :
    ((serve (fun _ => "") rollback emptySystem oneReport).store.reports.map (·.reportId)) = [7] := by
  decide +kernel

theorem fresh_another :
    Fresh (serve (fun _ => "") rollback emptySystem oneReport) (.report anotherEnv anotherBody) := by
  refine ⟨⟨by decide, by decide⟩, ?_⟩
  rw [served_oneReport]
  decide

theorem fresh_oneReport : Fresh emptySystem oneReport := ⟨⟨by decide, by decide⟩, List.not_mem_nil⟩

def afterBoth : System :=
  serve (fun _ => "") rollback (serve (fun _ => "") rollback emptySystem oneReport) (.report anotherEnv anotherBody)

theorem fresh_repliedTo (sys : System) : Run.Along (serve (fun _ => "") rollback) Fresh sys repliedTo :=
  ⟨trivial, trivial, trivial, trivial⟩

theorem contract_run_twoReports :
    Run.Always (serve (fun _ => "") rollback) (fun sys => Contract sys.store) emptySystem
      (oneReport :: .report anotherEnv anotherBody :: repliedTo) :=
  contract_run (fun _ => "") rollback 0 (oneReport :: .report anotherEnv anotherBody :: repliedTo)
    ⟨fresh_oneReport, fresh_another, fresh_repliedTo afterBoth⟩

/-- The first image of the second report is served, the second is not. -/
example : (List.range 3).map (fun seq => getReportImage rollbackPool quiet " fb-0008" seq afterBoth.db) =
    [.served "image/gif" "tiny".toUTF8.toList, .status 500, .status 404] := by decide +kernel

theorem another_answered : ∃ report, ((Call.report anotherEnv anotherBody).run (fun _ => "") rollback
    (serve (fun _ => "") rollback emptySystem oneReport)).1 = .ok report ∧ report.id = "FB-0008" := by
  have hid : (match ((Call.report anotherEnv anotherBody).run (fun _ => "") rollback
        (serve (fun _ => "") rollback emptySystem oneReport)).1 with
      | .ok report => some report.id
      | .error _ _ => none) = some "FB-0008" := by decide +kernel
  split at hid
  · rename_i report heq
    exact ⟨report, heq, Option.some.inj hid⟩
  · cases hid

theorem fetched_secondReport : ∃ images, Accepted (fun _ => "") anotherBody images ∧
    getReportImage rollbackPool quiet " fb-0008" 0
      (Run.run (serve (fun _ => "") rollback) afterBoth repliedTo).db = sentImage images 0 := by
  obtain ⟨report, hok, hid⟩ := another_answered
  have hraw : upper (strip " fb-0008") = report.id := by
    rw [hid]
    decide +kernel
  have hcontract : Contract (serve (fun _ => "") rollback emptySystem oneReport).store :=
    contract_serve contract_empty fresh_oneReport
  exact fetched (fun _ => "") rollback hcontract fresh_another hok (fresh_repliedTo afterBoth) (fun _ => rfl) hraw 0

end BifrostApi.Research.Feedback
