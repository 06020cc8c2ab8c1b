import StaticSite.Path.Site
import StaticSite.Proofs.Offset.Scan
import StaticSite.Proofs.Offset.Tidy
import StaticSite.Proofs.Text.Split
import StaticSite.Site.Builder

/-!
# No cut fails

Whatever characters a text holds, no function that counts its bytes cuts it behind its end or
inside a character: the scans for markers, tidying, the address of a page and the script of the
preview run to their end (`runs_without_fault`). Each gives what it gives on lists of characters,
where there is nothing to cut.
-/

namespace StaticSite.Offset

open Marker Tidy
open Text (byteLength byteLength_append)

/-! ## Addresses and scripts -/

/-- The path of a page in its public address. -/
def publicPath (relative : List Char) : Cutting (List Char) :=
  let index := "index.html".toList
  let relative := relative.dropWhile (· == '/')
  if relative = index then pure []
  else
    match Text.stripPrefix? ('/' :: index).reverse relative.reverse with
    | some directory => takeBytes (byteLength directory.reverse + 1) relative
    | none => pure relative

theorem publicPath_eq (relative : List Char) :
    publicPath relative = pure (Path.publicPath relative) := by
  simp only [publicPath, Path.publicPath]
  generalize relative.dropWhile (· == '/') = relative
  split_ifs with hindex
  · rfl
  cases hdirectory : Text.stripPrefix? ('/' :: "index.html".toList).reverse relative.reverse with
  | none => rfl
  | some directory =>
    have hrelative : relative = (directory.reverse ++ ['/']) ++ "index.html".toList := by
      have hreverse := congrArg List.reverse (Text.stripPrefix?_eq_some hdirectory)
      simpa using hreverse
    have hlength : byteLength directory.reverse + 1 = byteLength (directory.reverse ++ ['/']) := by
      rw [byteLength_append]
      rfl
    dsimp only
    rw [hlength, hrelative, takeBytes_byteLength, List.reverse_cons]

/-- The public address of a page. -/
def pageUrl (siteUrl : Option String) (relative : String) : Cutting String :=
  let base := ((siteUrl.getD "").toList.reverse.dropWhile (· == '/')).reverse
  (fun path ↦ String.ofList (base ++ '/' :: path)) <$> publicPath relative.toList

theorem pageUrl_eq (siteUrl : Option String) (relative : String) :
    pageUrl siteUrl relative = pure (Path.pageUrl siteUrl relative) := by
  rw [pageUrl, publicPath_eq, map_pure]
  rfl

/-- The offset of the rightmost occurrence of a pattern. -/
def findLast? (pattern text : List Char) : Option ℕ :=
  (Text.breakOnLast? pattern text).map fun parts ↦ byteLength parts.1

/-- The HTML with a script before the end of its body, or at its end. -/
def injectScript (html script : String) : Cutting String :=
  match findLast? "</body>".toList html.toList with
  | some index => String.ofList <$> insertAt index script.toList html.toList
  | none => pure (html ++ script)

theorem injectScript_eq (html script : String) :
    injectScript html script = pure (StaticSite.injectScript html script) := by
  rw [injectScript, findLast?, StaticSite.injectScript]
  cases hbreak : Text.breakOnLast? "</body>".toList html.toList with
  | none => rfl
  | some parts =>
    have hhtml := Text.breakOnLast?_split hbreak
    rw [List.append_assoc] at hhtml
    rw [Option.map_some]
    dsimp only
    rw [hhtml, insertAt_byteLength, map_pure, ← List.append_assoc]
    simp only [String.ofList_append, String.ofList_toList, String.append_assoc]

/-! ## All cuts -/

/-- Text can be cut at its positions and nowhere else, and it is cut nowhere else: on every text,
the functions that cut it at byte offsets run to their end, with the results of those on lists of
characters. -/
theorem runs_without_fault :
    (∀ (n : ℕ) (text : List Char),
      (∃ parts, cut n text = pure parts) ↔ String.Pos.Raw.IsValid (String.ofList text) ⟨n⟩) ∧
    (∀ text : String,
      tokensFrom text.toList (text.toList.length + 1) 0 0 = pure (tokenize text)) ∧
    (∀ text : String,
      (fun spans ↦ spans.findSome? Span.reference?) <$>
        spansFrom text.toList (text.toList.length + 1) 0 = pure (findReference? text)) ∧
    (∀ before rest : List Char,
      markerAt (before ++ (opening ++ rest)) (byteLength before) =
        pure ((read? (opening ++ rest)).map fun found ↦
          (offsetOf (before ++ (opening ++ rest)) found.2, found.1))) ∧
    (∀ text : String, renderMarkerAt text.toList = pure (measureRenderMarker? text)) ∧
    (∀ (body : String) (context : PageContext),
      Except.map String.ofList <$> filledFrom context body.toList (body.toList.length + 1) 0 =
        pure (Renderer.fillMarkers body context)) ∧
    (∀ text : String,
      String.ofList <$> tidiedLines ⟨none, false, false⟩ (Text.lines text.toList) =
        pure (tidy text)) ∧
    (∀ (line : List Char) (state : Option Element),
      openPreformatted line state = pure (openAfter state (Text.asciiLower line))) ∧
    (∀ (element : Element) (text : List Char),
      startTagIn element text = pure (startTag? element text)) ∧
    (∀ (siteUrl : Option String) (relative : String),
      pageUrl siteUrl relative = pure (Path.pageUrl siteUrl relative)) ∧
    (∀ html script : String,
      injectScript html script = pure (StaticSite.injectScript html script)) :=
  ⟨fun _ _ ↦ exists_cut_eq_pure_iff, tokensFrom_eq, spansFrom_eq, markerAt_eq,
    measureRenderMarker?_eq, filledFrom_eq, tidiedLines_lines, openPreformatted_eq, startTagIn_eq,
    pageUrl_eq, injectScript_eq⟩

end StaticSite.Offset
