import Walkthrough.Proofs.Document.Json
import Walkthrough.Proofs.Document.Record
import Walkthrough.Settings

namespace Walkthrough

open Document

theorem Document.Reader.nat_whole {n max : Nat} (h : n ≤ max) : nat max (.whole n) = some n := by
  have hle : (n : Int) ≤ max := Int.ofNat_le.mpr h
  simp [nat, whole, hle]

namespace Credentials

def shape : Shape :=
  .record fieldNames fun _ => .value

theorem ofNode?_toNode (c : Credentials) : ofNode? c.toNode = some c := by
  obtain ⟨code, phone, otp⟩ := c
  cases code <;> cases phone <;> cases otp <;> rfl

theorem isJson_toNode (c : Credentials) : c.toNode.isJson = true := by
  obtain ⟨code, phone, otp⟩ := c
  cases code <;> cases phone <;> cases otp <;> rfl

theorem reads : shape.Reads ofNode? none.toNode none := by
  refine .record rfl (by decide) (fun _ => rfl) (fun f g h => ?_) (ofNode?_toNode none)
  simp (disch := exact ⟨_, rfl, .value rfl⟩) only [h]

end Credentials

namespace Timeouts

def shape : Shape :=
  .record ["wait_for_ms", "run_ms"] fun _ => .value

theorem ofNode?_toNode {t : Timeouts} (hawait : t.awaitText ≤ Text.maxU64)
    (hrun : t.run ≤ Text.maxU64) : ofNode? t.toNode = some t := by
  show ((Reader.nat Text.maxU64 (.whole t.awaitText)).bind fun awaitText =>
    (Reader.nat Text.maxU64 (.whole t.run)).bind fun run => some ⟨awaitText, run⟩) = some t
  rw [Reader.nat_whole hawait, Reader.nat_whole hrun]
  rfl

theorem isJson_toNode {t : Timeouts} (hawait : t.awaitText ≤ Text.maxU64)
    (hrun : t.run ≤ Text.maxU64) : t.toNode.isJson = true := by
  show (true && (wholeInRange t.awaitText && (wholeInRange t.run && true))) = true
  rw [wholeInRange_of_le hawait, wholeInRange_of_le hrun]
  rfl

theorem reads : shape.Reads ofNode? standard.toNode standard := by
  refine .record rfl (by decide) (fun _ => rfl) (fun f g h => ?_)
    (ofNode?_toNode (by decide) (by decide))
  simp (disch := exact ⟨_, rfl, .value rfl⟩) only [h]

end Timeouts

namespace SitePaths

def shape : Shape :=
  .record fieldNames fun _ => .value

theorem ofNode?_toNode (p : SitePaths) : ofNode? p.toNode = some p :=
  rfl

theorem isJson_toNode (p : SitePaths) : p.toNode.isJson = true :=
  rfl

theorem reads : shape.Reads ofNode? standard.toNode standard := by
  refine .record rfl (by decide) (fun _ => rfl) (fun f g h => ?_) rfl
  simp (disch := exact ⟨_, rfl, .value rfl⟩) only [h]

end SitePaths

namespace ApiPaths

def shape : Shape :=
  .record fieldNames fun _ => .value

theorem ofNode?_toNode (a : ApiPaths) : ofNode? a.toNode = some a :=
  rfl

theorem isJson_toNode (a : ApiPaths) : a.toNode.isJson = true :=
  rfl

theorem reads : shape.Reads ofNode? standard.toNode standard := by
  refine .record rfl (by decide) (fun _ => rfl) (fun f g h => ?_) rfl
  simp (disch := exact ⟨_, rfl, .value rfl⟩) only [h]

end ApiPaths

namespace TestData

def shape : Shape :=
  .record fieldNames fun name =>
    ([("paths", SitePaths.shape), ("endpoints", ApiPaths.shape)].lookup name).getD .value

theorem ofNode?_toNode {d : TestData} (h : d.listingPayload.isJson = true) :
    ofNode? d.toNode = some d := by
  show ((resolve d.listingPayload).bind fun payload =>
    some { d with listingPayload := payload }) = some d
  rw [resolve_of_isJson h]
  rfl

theorem isJson_toNode {d : TestData} (h : d.listingPayload.isJson = true) :
    d.toNode.isJson = true := by
  show (true && (true && (true && (true && (true && (true && (d.listingPayload.isJson &&
    (d.paths.toNode.isJson && (d.api.toNode.isJson && true))))))))) = true
  rw [h, d.paths.isJson_toNode, d.api.isJson_toNode]
  rfl

theorem reads : shape.Reads ofNode? standard.toNode standard := by
  refine .record rfl (by decide) (fun _ => rfl) (fun f g h => ?_)
    (ofNode?_toNode (by decide +kernel))
  have hpaths := h "paths" SitePaths.ofNode? standard.paths ⟨_, rfl, SitePaths.reads⟩
  have hapi := h "endpoints" ApiPaths.ofNode? standard.api ⟨_, rfl, ApiPaths.reads⟩
  simp only [hpaths, hapi]
  simp (disch := with_unfolding_all exact ⟨_, rfl, .value rfl⟩) only [h]

end TestData

namespace Settings

def shape : Shape :=
  .record fieldNames fun name =>
    ([("credentials", Credentials.shape), ("timeouts", Timeouts.shape),
      ("test_data", TestData.shape)].lookup name).getD .value

section

variable {s : Settings}

theorem optional_url (h : ∀ u ∈ s.baseUrl, Url.parse u.toText = .ok u) :
    Reader.optional .url (urlNode s.baseUrl) = some s.baseUrl := by
  cases hurl : s.baseUrl with
  | none => rfl
  | some u =>
    have hread : Reader.url (.text u.toText) = some u := by
      show (Url.parse u.toText).toOption = some u
      rw [h u hurl]
      rfl
    show (Reader.url (.text u.toText)).map some = some (some u)
    rw [hread]
    rfl

theorem ofNode?_toNode (hurl : ∀ u ∈ s.baseUrl, Url.parse u.toText = .ok u)
    (hawait : s.timeouts.awaitText ≤ Text.maxU64) (hrun : s.timeouts.run ≤ Text.maxU64)
    (hpayload : s.testData.listingPayload.isJson = true) : ofNode? s.toNode = some s := by
  show ((Reader.optional .url (urlNode s.baseUrl)).bind fun baseUrl =>
    (Credentials.ofNode? s.credentials.toNode).bind fun credentials =>
      (Timeouts.ofNode? s.timeouts.toNode).bind fun timeouts =>
        (TestData.ofNode? s.testData.toNode).bind fun testData =>
          some { s with
            baseUrl := baseUrl
            credentials := credentials
            timeouts := timeouts
            testData := testData }) = some s
  rw [optional_url hurl, Credentials.ofNode?_toNode, Timeouts.ofNode?_toNode hawait hrun,
    TestData.ofNode?_toNode hpayload]
  rfl

theorem isJson_toNode (hpacing : s.pacing.isFinite = true)
    (hawait : s.timeouts.awaitText ≤ Text.maxU64) (hrun : s.timeouts.run ≤ Text.maxU64)
    (hpayload : s.testData.listingPayload.isJson = true) : s.toNode.isJson = true := by
  have hurl : (urlNode s.baseUrl).isJson = true := by cases s.baseUrl <;> rfl
  show (true && ((urlNode s.baseUrl).isJson && (s.credentials.toNode.isJson &&
    (s.timeouts.toNode.isJson && (true && (s.pacing.isFinite &&
      (s.testData.toNode.isJson && true))))))) = true
  rw [hurl, s.credentials.isJson_toNode, Timeouts.isJson_toNode hawait hrun, hpacing,
    TestData.isJson_toNode hpayload]
  rfl

end

theorem reads : shape.Reads ofNode? standard.toNode standard := by
  refine .record rfl (by decide) (fun _ => rfl) (fun f g h => ?_)
    (ofNode?_toNode nofun (by decide) (by decide) (by decide +kernel))
  have hlogin := h "credentials" Credentials.ofNode? standard.credentials
    ⟨_, rfl, Credentials.reads⟩
  have htimes := h "timeouts" Timeouts.ofNode? standard.timeouts ⟨_, rfl, Timeouts.reads⟩
  have hdata := h "test_data" TestData.ofNode? standard.testData ⟨_, rfl, TestData.reads⟩
  simp only [hlogin, htimes, hdata]
  simp (disch := with_unfolding_all exact ⟨_, rfl, .value rfl⟩) only [h]

/-- Settings with a scale that is a number are a JSON value, and are read from it as they are, if the
URL is. An object, in which all records that are there are objects, reads like the standard settings
with its fields in place of theirs, those of records field by field, and reads the same without
fields that are unknown. -/
theorem settings_as_documents :
    (∀ s : Settings, s.pacing.isFinite = true → s.timeouts.awaitText ≤ Text.maxU64 →
      s.timeouts.run ≤ Text.maxU64 → s.testData.listingPayload.isJson = true →
      (∀ u ∈ s.baseUrl, Url.parse u.toText = .ok u) →
      s.toNode.isJson = true ∧ ofNode? s.toNode = some s) ∧
    ∀ n, shape.fits n = true →
      ofNode? (shape.overlay n standard.toNode) = ofNode? n ∧ ofNode? (shape.prune n) = ofNode? n :=
  ⟨fun _ hpacing hawait hrun hpayload hurl =>
    ⟨isJson_toNode hpacing hawait hrun hpayload, ofNode?_toNode hurl hawait hrun hpayload⟩,
    fun n hn => ⟨reads.overlay n hn, reads.prune n hn⟩⟩

theorem settings_as_documents_shop :
    let url : Url := ⟨"https", "", "", some "shop.test", none, .segments [""], none, none⟩
    let s : Settings := { standard with baseUrl := some url, pacing := 0.5 }
    let payload : Node := .table [("title", .text "Lamp")]
    let n : Node := .table [("timeouts", .table [("run_ms", .whole 1000), ("colour", .text "red")]),
      ("colour", .null), ("test_data", .table [("listing_payload", payload), ("paths", .table [])])]
    let t : Settings := { standard with
      timeouts := { Timeouts.standard with run := 1000 }
      testData := { TestData.standard with listingPayload := payload } }
    s.toNode.isJson = true ∧ ofNode? s.toNode = some s ∧ shape.fits n = true ∧
      ofNode? n = some t ∧ ofNode? (shape.overlay n standard.toNode) = some t ∧
      ofNode? (shape.prune n) = some t := by
  intro url s payload n t
  have hurl : Url.parse url.toText = .ok url := by decide +kernel
  have hbase : ∀ u ∈ s.baseUrl, Url.parse u.toText = .ok u := by
    intro u hu
    obtain rfl : url = u := Option.some.inj hu
    exact hurl
  have hs := settings_as_documents.1 s (by decide +kernel) (by decide) (by decide)
    (by decide +kernel) hbase
  have hfits : shape.fits n = true := by decide
  have hn : ofNode? n = some t := rfl
  obtain ⟨hover, hpruned⟩ := settings_as_documents.2 n hfits
  exact ⟨hs.1, hs.2, hfits, hn, hover.trans hn, hpruned.trans hn⟩

end Settings

end Walkthrough
