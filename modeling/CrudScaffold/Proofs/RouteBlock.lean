import CrudScaffold.Proofs.Artifacts

/-! The route registration block. The route stubs are templates of text and placeholders, so
rendering one writes its texts and the values of its placeholders one after another; the web
block for a model is then the text below, with the model's route prefix inside its marker. -/

namespace CrudScaffold

namespace Stub

/-- An element that renders to `s` in the map `entries`: text, or a placeholder whose key
holds the text `s` and names no helper. -/
def RendersTo (entries : List (String × Value)) (e : Element) (s : String) : Prop :=
  e = .text s ∨ ∃ k, e = .value (placeholder k) ∧ Value.field? entries k = some (.string s) ∧
    k ∉ helperNames

namespace Renderer

/-- A renderer at the top level of a map, outside partials. -/
def AtTop (r : Renderer) (entries : List (String × Value)) : Prop :=
  r.data = .object entries ∧ r.frames = [{}] ∧ r.indent = none

theorem AtTop.write {r : Renderer} {entries : List (String × Value)} (h : r.AtTop entries)
    (s : String) : (r.write s).AtTop entries := by
  unfold Renderer.write
  split
  · exact h
  · exact h

theorem out_write {r : Renderer} (h : r.indent = none) (s : String) :
    (r.write s).out = r.out ++ s := by
  unfold Renderer.write
  split
  · rename_i hs
    simp [String.isEmpty_iff.mp hs]
  · simp [h]

end Renderer

theorem renderElement_of_rendersTo {entries : List (String × Value)} {r : Renderer}
    (hr : r.AtTop entries) {e : Element} {s : String} (he : RendersTo entries e s) (fuel : Nat) :
    renderElement (fuel + 2) r e = .ok (r.write s) := by
  rcases he with rfl | ⟨k, rfl, hk, hhelp⟩
  · rfl
  · obtain ⟨hdata, hframes, -⟩ := hr
    simp [renderElement, placeholder, headName, unplaced, hhelp, evalParam, Renderer.resolve,
      leading, hframes, keysOf, Renderer.fromFrame, Renderer.fromData, walk, hdata, childOf, hk,
      Value.render, Except.mapError, bind, Except.bind, pure, Except.pure]

/-- A template whose elements render to `pieces` writes the pieces one after another. -/
theorem foldlM_of_rendersTo {entries : List (String × Value)} (fuel : Nat) :
    ∀ {t : Template} {pieces : List String} {r : Renderer}, r.AtTop entries →
      List.Forall₂ (fun e s => RendersTo entries e.1 s) t pieces →
      ∃ r', t.foldlM (fun r (e, place) => (renderElement (fuel + 2) r e).mapError
          fun (err : RenderError) => if err.place.isNone then { err with place := place } else err)
          r = .ok r' ∧
        r'.out = r.out ++ String.join pieces
  | [], [], r, _, .nil => ⟨r, rfl, by simp⟩
  | (e, place) :: t, s :: pieces, r, hr, .cons he hrest => by
    obtain ⟨r', hfold, hout⟩ := foldlM_of_rendersTo fuel (hr.write s) hrest
    refine ⟨r', ?_, ?_⟩
    · simp only [List.foldlM_cons, renderElement_of_rendersTo hr he, Except.mapError]
      exact hfold
    · rw [hout, Renderer.out_write hr.2.2, String.join_cons, String.append_assoc]

/-- Setting a key of a map changes what that key holds and nothing else. -/
theorem Value.field?_setField (entries : List (String × Value)) (key k : String) (v : Value) :
    Value.field? (Value.setField entries key v) k =
      if k = key then some v else Value.field? entries k := by
  induction entries with
  | nil => by_cases h : k = key <;> simp [Value.setField, Value.field?, h, Ne.symm]
  | cons e rest ih =>
    obtain ⟨k', w⟩ := e
    unfold Value.setField
    by_cases h : k = key
    · subst h
      by_cases h₁ : k = k'
      · subst h₁
        simp [Value.field?]
      · by_cases h₂ : k < k'
        · simp [Value.field?, h₁, h₂]
        · simp only [Value.field?] at ih ⊢
          simp [h₁, h₂, Ne.symm h₁, ih]
    · by_cases h₁ : key = k'
      · subst h₁
        simp [Value.field?, h, Ne.symm h]
      · by_cases h₂ : key < k'
        · simp [Value.field?, h, Ne.symm h, h₁, h₂]
        · simp only [Value.field?] at ih ⊢
          by_cases h₃ : k = k'
          · subst h₃
            simp [h₁, h₂, h]
          · simp [h₁, h₂, Ne.symm h₃, ih, h]

/-- The map of texts a stub is rendered with. -/
def mapOf (values : List (String × String)) : List (String × Value) :=
  values.foldl (fun acc (key, v) => Value.setField acc key (.string v)) []

/-- A key holds the text it was last given. -/
theorem field?_mapOf (values : List (String × String)) (k : String) :
    Value.field? (mapOf values) k = (values.reverse.find? (·.1 == k)).map fun e => .string e.2 := by
  suffices ∀ acc : List (String × Value), Value.field?
      (values.foldl (fun acc (key, v) => Value.setField acc key (.string v)) acc) k =
      ((values.reverse.find? (·.1 == k)).map fun e => .string e.2).or (Value.field? acc k) by
    simpa [mapOf, Value.field?] using this []
  induction values with
  | nil => simp
  | cons e rest ih =>
    intro acc
    obtain ⟨key, v⟩ := e
    rw [List.foldl_cons, ih, Value.field?_setField, List.reverse_cons, List.find?_append]
    by_cases h : k = key
    · subst h
      cases (rest.reverse.find? (·.1 == k)) <;> simp
    · simp [h, Ne.symm h]

/-- A text compiled ahead is rendered from its template. -/
theorem render_of_precompiled {source : String} {t : Template} (h : precompiled? source = some t)
    (values : List (String × String)) :
    Stub.render source values =
      match renderTemplate nestingLimit { data := .object (mapOf values) } t with
      | .ok r => .ok r.out
      | .error e => .error e.message := by
  unfold Stub.render
  rw [h]
  rfl

/-- A template whose elements all render writes their texts one after another. -/
theorem render_of_rendersTo {source : String} {t : Template} (h : precompiled? source = some t)
    {values : List (String × String)} {pieces : List String}
    (hpieces : List.Forall₂ (fun e s => RendersTo (mapOf values) e.1 s) t pieces) :
    Stub.render source values = .ok (String.join pieces) := by
  obtain ⟨r', hfold, hout⟩ := foldlM_of_rendersTo 509 (⟨rfl, rfl, rfl⟩ :
    ({ data := .object (mapOf values) } : Renderer).AtTop (mapOf values)) hpieces
  have hrender : renderTemplate nestingLimit { data := .object (mapOf values) } t = .ok r' := hfold
  rw [render_of_precompiled h, hrender]
  simp [hout]

end Stub

open Stub

/-- The registration block of a model: the web group, under the web middleware and URL prefix,
or the API group under the API middleware and the `v1` prefix. -/
def routeBlock (api : Bool) (model middleware prefixCall routePrefix controllerClass
    routeName : String) : String :=
  if api then
    "\n\n// " ++ model ++ " API Routes\nRoute::middleware(" ++ middleware ++
      ")->prefix('v1')->group(function () \x7b\n    Route::apiResource('" ++ routePrefix ++
      "', " ++ controllerClass ++ "::class)->names('" ++ routeName ++ "');\n\x7d);\n"
  else
    "\n\n// " ++ model ++ " Routes\nRoute::middleware(" ++ middleware ++ ")" ++ prefixCall ++
      "->group(function () \x7b\n    Route::resource('" ++ routePrefix ++ "', " ++
      controllerClass ++ "::class)->names('" ++ routeName ++ "');\n\x7d);\n"

/-- The route stubs render to their registration blocks. -/
theorem render_routesStub (api : Bool) (model middleware prefixCall routePrefix controllerClass
    routeName : String) :
    Stub.render (if api then apiRoutesStub else webRoutesStub)
        [("model_name", model), ("middleware", middleware), ("prefix_call", prefixCall),
          ("route_prefix", routePrefix), ("controller_class", controllerClass),
          ("route_name", routeName)] =
      .ok (routeBlock api model middleware prefixCall routePrefix controllerClass routeName) := by
  have hkey : ∀ k s, (k, s) ∈ [("model_name", model), ("middleware", middleware),
      ("prefix_call", prefixCall), ("route_prefix", routePrefix),
      ("controller_class", controllerClass), ("route_name", routeName)] →
      k ∉ helperNames → RendersTo (mapOf [("model_name", model), ("middleware", middleware),
        ("prefix_call", prefixCall), ("route_prefix", routePrefix),
        ("controller_class", controllerClass), ("route_name", routeName)])
        (.value (placeholder k)) s := by
    intro k s hks hk
    refine .inr ⟨k, rfl, ?_, hk⟩
    rw [field?_mapOf]
    simp only [List.mem_cons, Prod.mk.injEq, List.not_mem_nil, or_false] at hks
    rcases hks with ⟨rfl, rfl⟩ | ⟨rfl, rfl⟩ | ⟨rfl, rfl⟩ | ⟨rfl, rfl⟩ | ⟨rfl, rfl⟩ | ⟨rfl, rfl⟩ <;>
      simp
  let entries := mapOf [("model_name", model), ("middleware", middleware),
    ("prefix_call", prefixCall), ("route_prefix", routePrefix),
    ("controller_class", controllerClass), ("route_name", routeName)]
  cases api with
  | false =>
    have hpieces : List.Forall₂ (fun e s => RendersTo entries e.1 s) webRoutesTemplate
        ["\n\n// ", model, " Routes\nRoute::middleware(", middleware, ")", prefixCall,
          "->group(function () \x7b\n    Route::resource('", routePrefix, "', ", controllerClass,
          "::class)->names('", routeName, "');\n\x7d);\n"] :=
      .cons (.inl rfl) (.cons (hkey _ _ (by simp) (by decide)) (.cons (.inl rfl)
        (.cons (hkey _ _ (by simp) (by decide)) (.cons (.inl rfl)
        (.cons (hkey _ _ (by simp) (by decide)) (.cons (.inl rfl)
        (.cons (hkey _ _ (by simp) (by decide)) (.cons (.inl rfl)
        (.cons (hkey _ _ (by simp) (by decide)) (.cons (.inl rfl)
        (.cons (hkey _ _ (by simp) (by decide)) (.cons (.inl rfl) .nil))))))))))))
    rw [if_neg Bool.false_ne_true, render_of_rendersTo (by simp [precompiled?]) hpieces]
    simp [routeBlock, String.append_assoc]
  | true =>
    have hpieces : List.Forall₂ (fun e s => RendersTo entries e.1 s) apiRoutesTemplate
        ["\n\n// ", model, " API Routes\nRoute::middleware(", middleware,
          ")->prefix('v1')->group(function () \x7b\n    Route::apiResource('", routePrefix, "', ",
          controllerClass, "::class)->names('", routeName, "');\n\x7d);\n"] :=
      .cons (.inl rfl) (.cons (hkey _ _ (by simp) (by decide)) (.cons (.inl rfl)
        (.cons (hkey _ _ (by simp) (by decide)) (.cons (.inl rfl)
        (.cons (hkey _ _ (by simp) (by decide)) (.cons (.inl rfl)
        (.cons (hkey _ _ (by simp) (by decide)) (.cons (.inl rfl)
        (.cons (hkey _ _ (by simp) (by decide)) (.cons (.inl rfl) .nil))))))))))
    have hprec : precompiled? apiRoutesStub = some apiRoutesTemplate := by
      simp [precompiled?, show apiRoutesStub ≠ webRoutesStub by decide]
    rw [if_pos rfl, render_of_rendersTo hprec hpieces]
    simp [routeBlock, String.append_assoc]

/-- The block registering a route prefix holds its marker. -/
theorem routeMarker_infix_routeBlock (api : Bool) (model middleware prefixCall routePrefix
    controllerClass routeName : String) :
    (routeMarker api routePrefix).toList <:+:
      (routeBlock api model middleware prefixCall routePrefix controllerClass routeName).toList := by
  cases api
  · refine ⟨("\n\n// " ++ model ++ " Routes\nRoute::middleware(" ++ middleware ++ ")" ++
      prefixCall ++ "->group(function () \x7b\n    ").toList,
      (", " ++ controllerClass ++ "::class)->names('" ++ routeName ++ "');\n\x7d);\n").toList, ?_⟩
    simp [routeMarker, routeBlock, singleQuoted]
  · refine ⟨("\n\n// " ++ model ++ " API Routes\nRoute::middleware(" ++ middleware ++
      ")->prefix('v1')->group(function () \x7b\n    ").toList,
      (", " ++ controllerClass ++ "::class)->names('" ++ routeName ++ "');\n\x7d);\n").toList, ?_⟩
    simp [routeMarker, routeBlock, singleQuoted]

/-- The name of the route stub of a request, and the stub that ships under it. -/
def routeStubName (api : Bool) : String := if api then "routes.api" else "routes.web"

/-- The block a request registers: its model, middleware, URL prefix, route prefix, controller
and route names, as the route renderer fills them in. -/
def RenderContext.routeBlock (ctx : RenderContext) : String :=
  let api := ctx.request.apiOnly
  let routes := ctx.config.routes
  CrudScaffold.routeBlock api ctx.names.model
    (middlewareText (if api then routes.apiMiddleware else routes.middleware))
    (if routes.urlPrefix.isEmpty || api then ""
      else "->prefix(" ++ singleQuoted routes.urlPrefix ++ ")")
    ctx.names.routePrefix ("\\" ++ controllerNamespace ctx ++ "\\" ++ ctx.names.controller)
    (if api then "api." ++ ctx.names.routePrefix else ctx.names.routePrefix)

/-- A request's block holds the request's marker. -/
theorem RenderContext.routeMarker_infix (ctx : RenderContext) :
    (routeMarker ctx.request.apiOnly ctx.names.routePrefix).toList <:+: ctx.routeBlock.toList :=
  routeMarker_infix_routeBlock _ _ _ _ _ _ _

/-- With the route stub that ships, the route file is appended the request's block, unless it
holds the request's marker. -/
theorem renderRoutes_bundled {ctx : RenderContext}
    (hstub : ctx.stub (routeStubName ctx.request.apiOnly) =
      .ok (if ctx.request.apiOnly then apiRoutesStub else webRoutesStub)) :
    renderRoutes ctx = .ok [{
      path := joinPath (ArtifactKind.routes.directory ctx.config.paths)
        (if ctx.request.apiOnly then "api.php" else "web.php")
      content := ctx.routeBlock
      description := (if ctx.request.apiOnly then "API" else "Web") ++ " routes for " ++
        ctx.names.model
      mode := .appendUnlessPresent (routeMarker ctx.request.apiOnly ctx.names.routePrefix)
        (some routeFilePreamble) }] := by
  unfold renderRoutes RenderContext.routeBlock
  cases hapi : ctx.request.apiOnly with
  | false =>
    simp only [routeStubName, hapi, Bool.false_eq_true, if_false] at hstub
    have hrender := render_routesStub false ctx.names.model
      (middlewareText ctx.config.routes.middleware)
      (if ctx.config.routes.urlPrefix.isEmpty then ""
        else "->prefix(" ++ singleQuoted ctx.config.routes.urlPrefix ++ ")")
      ctx.names.routePrefix ("\\" ++ controllerNamespace ctx ++ "\\" ++ ctx.names.controller)
      ctx.names.routePrefix
    simp only [Bool.false_eq_true, if_false, String.isEmpty_iff] at hrender
    simp [RenderContext.render, hstub, hrender]
  | true =>
    simp only [routeStubName, hapi, if_true] at hstub
    have hrender := render_routesStub true ctx.names.model
      (middlewareText ctx.config.routes.apiMiddleware) "" ctx.names.routePrefix
      ("\\" ++ controllerNamespace ctx ++ "\\" ++ ctx.names.controller)
      ("api." ++ ctx.names.routePrefix)
    simp only [if_true] at hrender
    simp [RenderContext.render, hstub, hrender]

end CrudScaffold
