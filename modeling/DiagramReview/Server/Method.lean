import DiagramReview.Server.Parameters

namespace DiagramReview

inductive Sending where
  | request
  | notification
  deriving DecidableEq, Repr

structure Method where
  name : String
  sending : Sending
  shape : Shape

namespace Method

open Shape

def questions : List (String × Shape) :=
  [("textDocument/willSaveWaitUntil", saving),
   ("textDocument/declaration", inPlace []),
   ("textDocument/definition", inPlace []),
   ("textDocument/typeDefinition", inPlace []),
   ("textDocument/implementation", inPlace []),
   ("textDocument/references", inPlace [need "context" (record [need "includeDeclaration" truth])]),
   ("textDocument/prepareCallHierarchy", hover),
   ("callHierarchy/incomingCalls", aboutItem (listOf whole)),
   ("callHierarchy/outgoingCalls", aboutItem (listOf whole)),
   ("textDocument/prepareTypeHierarchy", hover),
   ("typeHierarchy/supertypes", aboutItem whole),
   ("typeHierarchy/subtypes", aboutItem whole),
   ("textDocument/documentHighlight", inPlace []),
   ("textDocument/documentLink", inDocument []),
   ("documentLink/resolve", link),
   ("textDocument/codeLens", inDocument []),
   ("codeLens/resolve", lens),
   ("textDocument/foldingRange", inDocument []),
   ("textDocument/selectionRange", inDocument [need "positions" (listOf position)]),
   ("textDocument/documentSymbol", inDocument []),
   ("textDocument/semanticTokens/full", inDocument []),
   ("textDocument/semanticTokens/full/delta", inDocument [need "previousResultId" text]),
   ("textDocument/semanticTokens/range", inDocument [need "range" range]),
   ("textDocument/inlineValue",
      parts
        [progress, onDocument, need "range" range,
         need "context" (record [need "frameId" whole, need "stoppedLocation" range])]),
   ("textDocument/inlayHint", parts [progress, onDocument, need "range" range]),
   ("inlayHint/resolve", hint),
   ("textDocument/moniker", inPlace []),
   ("completionItem/resolve", Shape.completionItem),
   ("textDocument/diagnostic", inDocument [may "identifier" text, may "previousResultId" text]),
   ("workspace/diagnostic",
      parts
        (may "identifier" text ::
          need "previousResultIds" (listOf (record [need "uri" uri, need "value" text])) ::
          tokens)),
   ("textDocument/signatureHelp", signatureHelp),
   ("textDocument/codeAction", inDocument [need "range" range, need "context" actionContext]),
   ("codeAction/resolve", action),
   ("textDocument/documentColor", inDocument []),
   ("textDocument/colorPresentation", inDocument [need "color" color, need "range" range]),
   ("textDocument/formatting", parts [onDocument, need "options" layout, progress]),
   ("textDocument/rangeFormatting",
      parts [onDocument, need "range" range, need "options" layout, progress]),
   ("textDocument/onTypeFormatting",
      parts (atPosition ++ [need "ch" text, need "options" layout])),
   ("textDocument/rename", parts (atPosition ++ [need "newName" text, progress])),
   ("textDocument/prepareRename", record atPosition),
   ("textDocument/linkedEditingRange", hover),
   ("workspace/symbol", parts (need "query" text :: tokens)),
   ("workspaceSymbol/resolve", symbol),
   ("workspace/willCreateFiles", files ["uri"]),
   ("workspace/willRenameFiles", files ["oldUri", "newUri"]),
   ("workspace/willDeleteFiles", files ["uri"]),
   ("workspace/executeCommand", executed)]

def events : List (String × Shape) :=
  [("textDocument/willSave", saving),
   ("textDocument/didSave", saved),
   ("workspace/didChangeConfiguration", record [need "settings" any]),
   ("workspace/didChangeWorkspaceFolders",
      record
        [need "event" (record [need "added" (listOf folder), need "removed" (listOf folder)])]),
   ("workspace/didCreateFiles", files ["uri"]),
   ("workspace/didRenameFiles", files ["oldUri", "newUri"]),
   ("workspace/didDeleteFiles", files ["uri"]),
   ("workspace/didChangeWatchedFiles",
      record [need "changes" (listOf (record [need "uri" uri, need "type" whole]))])]

def unserved : List Method :=
  questions.map (fun (name, shape) => ⟨name, .request, shape⟩) ++
    events.map fun (name, shape) => ⟨name, .notification, shape⟩

end Method

end DiagramReview
