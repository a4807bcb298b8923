import ContentForms.Proofs.ByteOrder
import ContentForms.Proofs.Requests
import Mathlib.Data.List.TakeWhile

/-!
The targets at which documents are asked for. A content name or a slug has no character that ends
the path of a target, cuts it or starts an escape in it, so it can be put there as it is, and it is
found there again.
-/

namespace ContentForms

/-! ### Texts without escapes -/

namespace Percent

theorem decodeBytes_cons {c : Char} (h : c ≠ '%') (rest : List Char) :
    decodeBytes (c :: rest) = encodeUtf8 c ++ decodeBytes rest := by
  simp [decodeBytes, h]

theorem toByteArray_decodeBytes {cs : List Char} (h : '%' ∉ cs) :
    (decodeBytes cs).toByteArray = cs.utf8Encode := by
  induction cs with
  | nil => rfl
  | cons c rest ih =>
      obtain ⟨hc, hrest⟩ := List.ne_and_not_mem_of_not_mem_cons h
      have hencode : (encodeUtf8 c).toByteArray = [c].utf8Encode := by
        rw [encodeUtf8, toByteArray_toList, String.toUTF8_eq_toByteArray,
          String.toByteArray_singleton]
      rw [decodeBytes_cons hc.symm, List.toByteArray_append, hencode, ih hrest,
        ← List.utf8Encode_cons]

end Percent

theorem fromUTF8?_toByteArray (text : String) : String.fromUTF8? text.toByteArray = some text := by
  rw [String.fromUTF8?, dif_pos text.isValidUTF8]
  rfl

theorem Percent.decode?_of_not_mem {text : String} (h : '%' ∉ text.toList) :
    decode? text.toList = some text := by
  rw [decode?, toByteArray_decodeBytes h, ← String.toByteArray_ofList, String.ofList_toList,
    fromUTF8?_toByteArray]

theorem Endpoint.decodeName_of_isSafeName (label : String) {text : String} (h : isSafeName text) :
    decodeName label text = .ok text := by
  rw [decodeName, Percent.decode?_of_not_mem (notMem_of_isSafeName h (by decide))]
  rfl

/-! ### The path of a target -/

theorem Text.pieces_slashed {xs : List Char} (hxs : '/' ∉ xs) {names : List String}
    (h : ∀ name ∈ names, '/' ∉ name.toList) :
    pieces '/' (xs ++ names.flatMap fun name => '/' :: name.toList) =
      xs :: names.map String.toList := by
  induction names generalizing xs with
  | nil => simpa using pieces_of_not_mem hxs
  | cons name rest ih =>
      obtain ⟨hname, hrest⟩ := List.forall_mem_cons.mp h
      rw [List.flatMap_cons, List.cons_append, pieces_append_mark, pieces_of_not_mem hxs,
        ih hname hrest]
      rfl

namespace Http.Request

variable {request : Http.Request}

/-- The names that a target goes through if it is made of them, each with a slash before it. -/
theorem pieces_path {names : List String} (hnames : ∀ name ∈ names, isSafeName name)
    (h : request.target.toList = names.flatMap fun name => '/' :: name.toList) :
    (Text.pieces '/' request.path).map String.ofList = "" :: names := by
  have hchars : ∀ c ∈ request.target.toList, c = '/' ∨ isNameChar c := by
    rw [h]
    intro c hmem
    obtain ⟨name, hname, hc⟩ := List.mem_flatMap.mp hmem
    rcases List.mem_cons.mp hc with rfl | hc
    · exact .inl rfl
    · by_contra hmark
      exact notMem_of_isSafeName (hnames name hname) (not_or.mp hmark).2 hc
  have hpath : request.path = request.target.toList := by
    refine List.takeWhile_eq_self_iff.mpr fun c hmem => ?_
    have hmark : c ≠ '?' ∧ c ≠ '#' := by
      constructor <;> rintro rfl <;> exact absurd (hchars _ hmem) (by decide)
    simpa using hmark
  have hpieces := Text.pieces_slashed List.not_mem_nil
    fun name hname => noSlash_of_isSafeName (hnames name hname)
  rw [List.nil_append] at hpieces
  rw [hpath, h, hpieces, List.map_cons, List.map_map]
  simp

theorem endpoint?_page {page : ContentName} (h : request.target = "/api/cms/page/" ++ page.text) :
    request.endpoint? = some (.document "page" page.text) := by
  have hpieces : (Text.pieces '/' request.path).map String.ofList =
      ["", "api", "cms", "page", page.text] := by
    refine pieces_path ?_ (by simp [h])
    simp only [List.forall_mem_cons, List.not_mem_nil, false_implies, implies_true, and_true]
    exact ⟨by decide, by decide, by decide, page.safe⟩
  have hraw : Endpoint.ofPath? request.path = some (.document "page" page.text) := by
    rw [Endpoint.ofPath?, hpieces]
    simp [(isComponent_of_isSafeName page.safe).notEmpty]
  have htype : Endpoint.decodeName "type" "page" = .ok "page" :=
    Endpoint.decodeName_of_isSafeName _ (by decide)
  rw [endpoint?, hraw, Option.bind_some, Endpoint.decode, htype,
    Endpoint.decodeName_of_isSafeName _ page.safe]
  rfl

theorem endpoint?_entry {blog : ContentName} {slug : Slug}
    (h : request.target = "/api/cms/blog/" ++ blog.text ++ "/" ++ slug.text) :
    request.endpoint? = some (.entry blog.text slug.text) := by
  have hpieces : (Text.pieces '/' request.path).map String.ofList =
      ["", "api", "cms", "blog", blog.text, slug.text] := by
    refine pieces_path ?_ (by simp [h])
    simp only [List.forall_mem_cons, List.not_mem_nil, false_implies, implies_true, and_true]
    exact ⟨by decide, by decide, by decide, blog.safe, slug.safe⟩
  have hraw : Endpoint.ofPath? request.path = some (.entry blog.text slug.text) := by
    rw [Endpoint.ofPath?, hpieces]
    simp [(isComponent_of_isSafeName slug.safe).notEmpty]
  rw [endpoint?, hraw, Option.bind_some, Endpoint.decode,
    Endpoint.decodeName_of_isSafeName _ blog.safe, Endpoint.decodeName_of_isSafeName _ slug.safe]
  rfl

end Http.Request

end ContentForms
