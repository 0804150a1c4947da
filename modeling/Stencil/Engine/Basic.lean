import Stencil.Engine.Config
import Stencil.Library.Standard
import Stencil.Render.Rendering
import Stencil.Template.Parser
/-!
# Engines

An engine holds the markers, the options and the functions with which templates are read and
rendered and queries are run. A compiled template keeps the functions and the options that its
engine had when it was compiled.
-/

namespace Stencil

/-- Every way in which an engine fails. -/
inductive EngineError where
  | scan (error : ScanError)
  /-- A template is not accepted with mistakes in it. -/
  | parse (errors : List ParseError)
  | query (error : QueryError)
  | render (error : RenderError)
  /-- Settings that cannot be read. -/
  | config

/-- What is said about a failure. -/
def EngineError.message : EngineError → String
  | scan error => "Tokenizing failed: " ++ error.message
  | parse errors => "Template has " ++ toString errors.length ++ " parse error(s)"
  | query error => "Query failed: " ++ error.message
  | render error => "Rendering failed: " ++ error.text
  | config => "Invalid configuration"

/-- A template that is ready for rendering. -/
structure CompiledTemplate where
  template : Template
  /-- The mistakes that were passed over. -/
  parseErrors : List ParseError
  registry : Registry
  options : RenderOptions

namespace CompiledTemplate

/-- Refuses a template with mistakes in it. -/
def ensureValid (compiled : CompiledTemplate) : Except EngineError CompiledTemplate :=
  if compiled.parseErrors.isEmpty then .ok compiled else .error (.parse compiled.parseErrors)

/-- The same template with other options. -/
def withOptions (compiled : CompiledTemplate) (options : RenderOptions) : CompiledTemplate :=
  { compiled with options }

/-- Renders the template with given options. -/
def renderWith (compiled : CompiledTemplate) (options : RenderOptions) (data : Value) :
    Except EngineError RenderOutput :=
  (Stencil.render ⟨data, compiled.registry, options⟩ compiled.template).mapError .render

def render (compiled : CompiledTemplate) (data : Value) : Except EngineError RenderOutput :=
  compiled.renderWith compiled.options data

/-- Renders the template once for each of several data. -/
def renderMany (compiled : CompiledTemplate) (contexts : List Value) :
    List (Except EngineError RenderOutput) :=
  contexts.map compiled.render

end CompiledTemplate

/-- An engine. -/
structure Engine where
  delimiters : Delimiters := {}
  options : RenderOptions := {}
  registry : Registry := Library.standard

namespace Engine

/-- The engine with given settings and the standard library. -/
def ofConfig (config : EngineConfig) : Except EngineError Engine := do
  (config.delimiters.check).mapError .scan
  return { delimiters := config.delimiters, options := config.render }

/-- The engine with settings that are read from a document. -/
def ofConfigText (text : String) : Except EngineError Engine :=
  match EngineConfig.ofText? text with
  | some config => ofConfig config
  | none => .error .config

/-- The same engine with other markers. -/
def withDelimiters (engine : Engine) (delimiters : Delimiters) : Except EngineError Engine := do
  (delimiters.check).mapError .scan
  return { engine with delimiters }

/-- The same engine with other options. -/
def withOptions (engine : Engine) (options : RenderOptions) : Engine := { engine with options }

/-- The same engine with other functions. -/
def withRegistry (engine : Engine) (registry : Registry) : Engine := { engine with registry }

/-- The same engine with one more function. Templates that have been compiled do not get it. -/
def withFunction (engine : Engine) (function : Function) : Engine :=
  { engine with registry := engine.registry.register function }

/-- The tokens of a text. -/
def tokenize (engine : Engine) (text : String) : Except EngineError (List Token) :=
  (Stencil.tokenize engine.delimiters text).mapError .scan

/-- The tree of a text. -/
def parse (engine : Engine) (text : String) : Except EngineError ParseResult :=
  (engine.tokenize text).map Stencil.parse

/-- Reads a template for any number of renders. -/
def compile (engine : Engine) (text : String) : Except EngineError CompiledTemplate :=
  (engine.parse text).map fun result =>
    { template := result.template, parseErrors := result.errors
      registry := engine.registry, options := engine.options }

/-- Reads a template and renders it once. -/
def render (engine : Engine) (text : String) (data : Value) : Except EngineError RenderOutput :=
  do (← engine.compile text).render data

def query (engine : Engine) (data : Value) (path : String) (options : QueryOptions) :
    Except EngineError Value :=
  (Query.runWith engine.registry data path options).mapError .query

end Engine

end Stencil
