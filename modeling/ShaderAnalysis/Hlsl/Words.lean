/-!
# Words of the shading language

Keywords and the spellings of builtin types, in groups.
-/

namespace ShaderAnalysis.Hlsl

/-- Words that steer control flow. -/
def controlKeywords : List String :=
  ["if", "else", "for", "while", "do", "switch", "case", "default", "break", "continue",
    "return", "discard", "clip"]

/-- Words that open an aggregate declaration. -/
def storageKeywords : List String :=
  ["struct", "cbuffer", "tbuffer", "ConstantBuffer", "class", "interface", "namespace"]

/-- Words that modify a declaration. -/
def modifierKeywords : List String :=
  ["const", "static", "extern", "volatile", "inline", "uniform", "shared", "groupshared",
    "precise", "nointerpolation", "noperspective", "centroid", "sample", "linear", "point",
    "lineadj", "triangleadj", "triangle", "in", "out", "inout", "row_major", "column_major",
    "register", "packoffset"]

/-- Constants with a spelling of their own. -/
def otherKeywords : List String :=
  ["true", "false", "NULL"]

/-- Scalar types. -/
def scalarTypes : List String :=
  ["bool", "int", "uint", "half", "float", "double", "dword", "min16float", "min10float",
    "min16int", "min12int", "min16uint", "void", "string"]

/-- Vector types. -/
def vectorTypes : List String :=
  ["float2", "float3", "float4", "half2", "half3", "half4", "int2", "int3", "int4", "uint2",
    "uint3", "uint4", "bool2", "bool3", "bool4", "double2", "double3", "double4", "min16float2",
    "min16float3", "min16float4", "min16int2", "min16int3", "min16int4", "min16uint2",
    "min16uint3", "min16uint4"]

/-- Matrix types and their storage orders. -/
def matrixTypes : List String :=
  ["float2x2", "float2x3", "float2x4", "float3x2", "float3x3", "float3x4", "float4x2",
    "float4x3", "float4x4", "half2x2", "half3x3", "half4x4", "int2x2", "int3x3", "int4x4",
    "uint2x2", "uint3x3", "uint4x4", "bool2x2", "bool3x3", "bool4x4", "double2x2", "double3x3",
    "double4x4", "matrix", "row_major", "column_major"]

/-- Sampler types. -/
def samplerTypes : List String :=
  ["sampler", "sampler1D", "sampler2D", "sampler3D", "samplerCUBE", "sampler_state",
    "SamplerState", "SamplerComparisonState"]

/-- Textures that are read. -/
def textureTypes : List String :=
  ["Texture1D", "Texture1DArray", "Texture2D", "Texture2DArray", "Texture2DMS",
    "Texture2DMSArray", "Texture3D", "TextureCube", "TextureCubeArray"]

/-- Textures that are read and written. -/
def writableTextureTypes : List String :=
  ["RWTexture1D", "RWTexture1DArray", "RWTexture2D", "RWTexture2DArray", "RWTexture3D"]

/-- Buffer types. -/
def bufferTypes : List String :=
  ["Buffer", "RWBuffer", "StructuredBuffer", "RWStructuredBuffer", "ByteAddressBuffer",
    "RWByteAddressBuffer", "AppendStructuredBuffer", "ConsumeStructuredBuffer"]

/-- Lower-case beginnings of words that spell a builtin type. -/
def typeBeginnings : List String :=
  ["bool", "int", "uint", "half", "float", "double", "dword", "min16float", "min10float",
    "min16int", "min12int", "min16uint", "void", "string", "sampler", "texture", "rwtexture",
    "buffer", "structuredbuffer", "appendstructuredbuffer", "consumestructuredbuffer"]

/-- All keywords. -/
def keywords : List String :=
  controlKeywords ++ storageKeywords ++ modifierKeywords ++ otherKeywords

/-- All exact spellings of builtin types. -/
def builtinTypes : List String :=
  scalarTypes ++ vectorTypes ++ matrixTypes ++ samplerTypes ++ textureTypes ++ writableTextureTypes ++
    bufferTypes

/-- Words that can never be the type of a declaration: after one of them, two words and a semicolon
are a statement. -/
def declarationGuards : List String :=
  ["if", "else", "for", "while", "do", "switch", "case", "default", "break", "continue", "return",
    "discard", "goto"]

end ShaderAnalysis.Hlsl
