import WebKeys.Arithmetic.Modular
import WebKeys.Arithmetic.Primality
import WebKeys.Bytes
import WebKeys.Bytes.Base64
import WebKeys.Bytes.Hex
import WebKeys.Bytes.Sha512
import WebKeys.Candidate
import WebKeys.CommandLine.Arguments
import WebKeys.CommandLine.Grammar
import WebKeys.CommandLine.Help
import WebKeys.CommandLine.Run
import WebKeys.Conversion
import WebKeys.Creation
import WebKeys.Curve
import WebKeys.Curve.Bls12381
import WebKeys.Curve.Edwards
import WebKeys.Curve.Montgomery
import WebKeys.Curve.Weierstrass
import WebKeys.Der.Element
import WebKeys.Der.ObjectId
import WebKeys.Der.PublicKeyInfo
import WebKeys.Entropy
import WebKeys.Failure
import WebKeys.Generation
import WebKeys.Json
import WebKeys.Json.Decimal
import WebKeys.Json.Fields
import WebKeys.Json.Reader
import WebKeys.Json.Shown
import WebKeys.Json.Writer
import WebKeys.Key
import WebKeys.KeyType
import WebKeys.Layout.EcDer
import WebKeys.Layout.KeyWrap
import WebKeys.Layout.Point
import WebKeys.Layout.Raw
import WebKeys.Layout.RsaDer
import WebKeys.Log.Clock
import WebKeys.Log.Event
import WebKeys.Log.Journal
import WebKeys.Log.Level
import WebKeys.Log.Logger
import WebKeys.Log.Mask
import WebKeys.Log.Record
import WebKeys.Log.Template
import WebKeys.Main
import WebKeys.Primitives
import WebKeys.Proofs.Base64
import WebKeys.Proofs.Bytes
import WebKeys.Proofs.Conversion
import WebKeys.Proofs.DecodingFailures
import WebKeys.Proofs.DerElement
import WebKeys.Proofs.Document
import WebKeys.Proofs.EcDer
import WebKeys.Proofs.JsonStrings
import WebKeys.Proofs.JsonInjective
import WebKeys.Proofs.JsonGrammar
import WebKeys.Proofs.KeyInformation
import WebKeys.Proofs.LongArc
import WebKeys.Proofs.Members
import WebKeys.Proofs.Numeral
import WebKeys.Proofs.ObjectIdentifier
import WebKeys.Proofs.Outcome
import WebKeys.Proofs.Point
import WebKeys.Proofs.PublicBytes
import WebKeys.Proofs.PublicView
import WebKeys.Proofs.Publication
import WebKeys.Proofs.RsaDer
import WebKeys.Proofs.SettledKey
import WebKeys.Proofs.Utf8
import WebKeys.PublicBytes
import WebKeys.Session
import WebKeys.Settings
import WebKeys.Store
import WebKeys.Text.CaseTable
import WebKeys.Text.Casing
import WebKeys.Text.Numeral
import WebKeys.Text.Printable
import WebKeys.Text.Quoted
import WebKeys.Text.Utf8
import WebKeys.View
import WebKeys.WebKey
import WebKeys.WebKey.Document
import WebKeys.WebKey.Parse
import WebKeys.Yaml
import WebKeys.Yaml.Resolution
import WebKeys.Proofs.StrictInformation
import WebKeys.Proofs.DerKinds
import WebKeys.Proofs.DerRewriting
import WebKeys.Proofs.PrivatePart
import WebKeys.Proofs.Labels
import WebKeys.Proofs.PublicForms
import WebKeys.Proofs.NewKeys
import WebKeys.Proofs.StoreRuns
import WebKeys.Proofs.Disclosure
import WebKeys.Proofs.AnyStore
import WebKeys.Proofs.ConversionErrors
import WebKeys.Proofs.Masking
import WebKeys.Proofs.ConfiguredStore
import WebKeys.Proofs.StoreLifetime
import WebKeys.Proofs.ExitCodes
import WebKeys.Proofs.Observation
import WebKeys.Proofs.Scripts
import WebKeys.Proofs.CallRecords
import WebKeys.Proofs.PrivateWriting
import WebKeys.Proofs.DocumentFailures
import WebKeys.Proofs.Coordinates
import WebKeys.Proofs.DottedForms
import WebKeys.Proofs.ArgumentLists
import WebKeys.Proofs.InputFormats
import WebKeys.Proofs.DerivedNumbers
import WebKeys.Proofs.NearestBinary
import WebKeys.Proofs.JsonReading
import WebKeys.Proofs.ViewDocuments
import WebKeys.Proofs.JournalCalls
import WebKeys.Proofs.JournalSetup
import WebKeys.Proofs.RecordLines
import WebKeys.Proofs.RecordNames
import WebKeys.Proofs.DerPositions
import WebKeys.Proofs.Base64Texts
import WebKeys.Proofs.MaskedFields
