import DiagramReview.Server.Shape

namespace DiagramReview.Shape.Capabilities

def registrable (more : List (String × Presence × Shape)) : Shape :=
  record (may "dynamicRegistration" truth :: more)

def plain : Shape := registrable []

def refreshable : Shape := record [may "refreshSupport" truth]

def resolving : Shape := record [need "properties" (listOf text)]

def formats : Shape := listOf (word ["plaintext", "markdown"])

def kinds : Shape := record [may "valueSet" (listOf whole)]

def tags : String × Presence × Shape :=
  mayEnd "tagSupport" (either truth (record [need "valueSet" (listOf whole)]))

def edits : Shape :=
  record
    [may "documentChanges" truth,
     may "resourceOperations" (listOf (word ["create", "rename", "delete"])),
     may "failureHandling" (word ["abort", "transactional", "textOnlyTransactional", "undo"]),
     may "normalizesLineEndings" truth,
     may "changeAnnotationSupport" (record [may "groupsOnLabel" truth])]

def workspace : Shape :=
  record
    [may "applyEdit" truth,
     may "workspaceEdit" edits,
     may "didChangeConfiguration" plain,
     may "didChangeWatchedFiles" (registrable [may "relativePatternSupport" truth]),
     may "symbol" (registrable [may "symbolKind" kinds, tags, may "resolveSupport" resolving]),
     may "executeCommand" plain,
     may "workspaceFolders" truth,
     may "configuration" truth,
     may "semanticTokens" refreshable,
     may "codeLens" refreshable,
     may "fileOperations"
       (registrable (switches
         ["didCreate", "willCreate", "didRename", "willRename", "didDelete", "willDelete"])),
     may "inlineValue" refreshable,
     may "inlayHint" refreshable,
     may "diagnostic" refreshable]

def completionItem : Shape :=
  record
    [may "snippetSupport" truth,
     may "commitCharactersSupport" truth,
     may "documentationFormat" formats,
     may "deprecatedSupport" truth,
     may "preselectSupport" truth,
     tags,
     may "insertReplaceSupport" truth,
     may "resolveSupport" resolving,
     may "insertTextModeSupport" (record [need "valueSet" (listOf whole)]),
     may "labelDetailsSupport" truth]

def completion : Shape :=
  registrable
    [may "completionItem" completionItem,
     may "completionItemKind" kinds,
     may "contextSupport" truth,
     may "insertTextMode" whole,
     may "completionList" (record [may "itemDefaults" (listOf text)])]

def signatures : Shape :=
  record
    [may "documentationFormat" formats,
     may "parameterInformation" (record [may "labelOffsetSupport" truth]),
     may "activeParameterSupport" truth]

def links : Shape := registrable [may "linkSupport" truth]

def actions : Shape :=
  registrable
    [may "codeActionLiteralSupport"
       (record [need "codeActionKind" (record [need "valueSet" (listOf text)])]),
     may "isPreferredSupport" truth,
     may "disabledSupport" truth,
     may "dataSupport" truth,
     may "resolveSupport" resolving,
     may "honorsChangeAnnotations" truth]

def folding : Shape :=
  registrable
    [may "rangeLimit" count,
     may "lineFoldingOnly" truth,
     may "foldingRangeKind"
       (record [may "valueSet" (listOf (word ["comment", "imports", "region"]))]),
     may "foldingRange" (record [may "collapsedText" truth])]

def semanticTokens : Shape :=
  registrable
    [need "requests"
       (record [may "range" truth, may "full" (either truth (object [may "delta" truth] any))]),
     need "tokenTypes" (listOf text),
     need "tokenModifiers" (listOf text),
     need "formats" (listOf text),
     may "overlappingTokenSupport" truth,
     may "multilineTokenSupport" truth,
     may "serverCancelSupport" truth,
     may "augmentsSyntaxTokens" truth]

def documents : Shape :=
  record
    [may "synchronization" (registrable (switches ["willSave", "willSaveWaitUntil", "didSave"])),
     may "completion" completion,
     may "hover" (registrable [may "contentFormat" formats]),
     may "signatureHelp"
       (registrable [may "signatureInformation" signatures, may "contextSupport" truth]),
     may "references" plain,
     may "documentHighlight" plain,
     may "documentSymbol"
       (registrable
         [may "symbolKind" kinds, may "hierarchicalDocumentSymbolSupport" truth, tags]),
     may "formatting" plain,
     may "rangeFormatting" plain,
     may "onTypeFormatting" plain,
     may "declaration" links,
     may "definition" links,
     may "typeDefinition" links,
     may "implementation" links,
     may "codeAction" actions,
     may "codeLens" plain,
     may "documentLink" (registrable [may "tooltipSupport" truth]),
     may "colorProvider" plain,
     may "rename"
       (registrable
         [may "prepareSupport" truth, may "prepareSupportDefaultBehavior" whole,
          may "honorsChangeAnnotations" truth]),
     may "publishDiagnostics"
       (record
         [may "relatedInformation" truth, tags, may "versionSupport" truth,
          may "codeDescriptionSupport" truth, may "dataSupport" truth]),
     may "foldingRange" folding,
     may "selectionRange" plain,
     may "linkedEditingRange" plain,
     may "callHierarchy" plain,
     may "semanticTokens" semanticTokens,
     may "moniker" plain,
     may "typeHierarchy" plain,
     may "inlineValue" plain,
     may "inlayHint" (registrable [may "resolveSupport" resolving]),
     may "diagnostic" (registrable [may "relatedDocumentSupport" truth])]

def notebooks : Shape :=
  record [need "synchronization" (registrable [may "executionSummaryReport" truth])]

def window : Shape :=
  record
    [may "workDoneProgress" truth,
     may "showMessage"
       (record [may "messageActionItem" (record [may "additionalPropertiesSupport" truth])]),
     may "showDocument" (record [need "support" truth])]

def general : Shape :=
  record
    [may "regularExpressions" (record [need "engine" text, may "version" text]),
     may "markdown"
       (record [need "parser" text, may "version" text, may "allowedTags" (listOf text)]),
     may "staleRequestSupport"
       (record [need "cancel" truth, need "retryOnContentModified" (listOf text)]),
     may "positionEncodings" (listOf text)]

def all : Shape :=
  record
    [may "workspace" workspace,
     may "textDocument" documents,
     may "notebookDocument" notebooks,
     may "window" window,
     may "general" general,
     may "experimental" any]

end DiagramReview.Shape.Capabilities
