/-!
# Reference cards

What is shown for a builtin call in a code region of a shader.
-/

namespace ShaderAnalysis.Hlsl

/-- The short description of a builtin function. -/
structure ReferenceCard where
  name : String
  signature : String
  description : String
  deriving DecidableEq, Repr

/-- All cards. -/
def referenceCards : List ReferenceCard :=
  [⟨"clip", "void clip(float v)", "Discards the current pixel when the argument is below 0"⟩,
    ⟨"floor", "T floor(T v)", "Rounds down (per channel)"⟩,
    ⟨"abs", "T abs(T v)", "Absolute value (per channel)"⟩,
    ⟨"min", "T min(T v1,T v2)", "Minimum of the arguments (per channel)"⟩,
    ⟨"ceil", "T ceil(T v)", "Rounds up (per channel)"⟩,
    ⟨"round", "T round(T v)", "Rounds to the nearest integer (per channel)"⟩,
    ⟨"clamp", "T clamp(T v,T min,T max)", "Limits the argument to the given range (per channel)"⟩,
    ⟨"saturate", "T saturate(T v)", "Limits the argument to [0, 1] (per channel)"⟩,
    ⟨"frac", "T frac(T v)", "Fractional part of the argument (per channel)"⟩,
    ⟨"lerp", "T lerp(T v1,T v2,float t)", "Interpolates between v1 and v2 by t (per channel)"⟩,
    ⟨"smoothstep", "T smoothstep(T edge1,T edge2,T v)",
      "Smooth interpolation between edge1 and edge2 (per channel)"⟩,
    ⟨"sqrt", "T sqrt(T v)", "Square root (per channel)"⟩,
    ⟨"sin", "T sin(T v)", "Sine (per channel)"⟩,
    ⟨"cos", "T cos(T v)", "Cosine (per channel)"⟩,
    ⟨"tan", "T tan(T v)", "Tangent (per channel)"⟩,
    ⟨"length", "float length(T v)", "Length of a vector (vector arguments only)"⟩,
    ⟨"step", "T step(T edge,T v)", "1.0 when v >= edge, otherwise 0.0 (per channel)"⟩,
    ⟨"max", "T max(T v1,T v2)", "Maximum of the arguments (per channel)"⟩,
    ⟨"normalize", "T normalize(T v)", "Normalizes the argument (vector arguments only)"⟩,
    ⟨"pow", "float pow(float v,float exp)", "Raises v to the power exp"⟩,
    ⟨"dot", "float dot(T v1,T v2)", "Dot product"⟩,
    ⟨"mul", "float4 mul(float4x4 matrix, float4 pos)", "Matrix and vector multiplication"⟩,
    ⟨"tex2D", "float4 tex2D(sampler2D tex, float2 uv)", "Texture sample"⟩,
    ⟨"UnityObjectToClipPos", "float4 UnityObjectToClipPos(float4 pos)",
      "Transforms a `position` from object space to clip space"⟩,
    ⟨"UnityObjectToWorldNormal", "float3 UnityObjectToWorldNormal(float3 normal)",
      "Transforms a `normal` from object space to world space"⟩,
    ⟨"UnityWorldSpaceLightDir", "float3 UnityWorldSpaceLightDir(float3 pos)",
      "World-space direction from the point towards the main light"⟩,
    ⟨"UnityWorldSpaceViewDir", "float3 UnityWorldSpaceViewDir(float3 pos)",
      "World-space direction from the point towards the main camera"⟩,
    ⟨"TRANSFORM_TEX", "float2 TRANSFORM_TEX(float2 uv, sampler2D tex)",
      "Applies scale and offset to UV coordinates"⟩]

/-- The card of a function. -/
def referenceCard? (name : String) : Option ReferenceCard :=
  referenceCards.find? (·.name == name)

end ShaderAnalysis.Hlsl
