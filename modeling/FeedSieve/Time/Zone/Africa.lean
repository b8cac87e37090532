import FeedSieve.Time.Zone.Source

/-!
# Zones of Africa

One row per zone, in the notation of `FeedSieve.Time.Zone.Source`.
-/
namespace FeedSieve.Time.Zone

def africa : List Source := [
  ⟨"Africa/Abidjan", -968,
    [⟨0, false⟩],
    [0x0d2a8d2c80],
    none⟩,
  ⟨"Africa/Algiers", 732,
    [⟨561, false⟩, ⟨0, false⟩, ⟨3600, true⟩, ⟨3600, false⟩, ⟨7200, true⟩],
    [0x0ab8bdba4002596b52b1009e728a120008fb3801000e56500200103b7801000c9b5802001162c801000c07b002,
     0x0011f67001000ae060020014c3a001000bb350020008284801022470000200059b4101000814f203007b82a704,
     0x000f7cbf03000e816104000dc0e603001fce300101183cb90300d8dddf0100f1c11002000cb0700100a8c0e102,
     0x000dd6df03000cb15104000efff1030020dea601000efff102000f939901000efe2f03],
    none⟩,
  ⟨"Africa/Bissau", -3740,
    [⟨-3600, false⟩, ⟨0, false⟩],
    [0x0d2a8dd10007680c4801],
    none⟩,
  ⟨"Africa/Cairo", 7509,
    [⟨7200, false⟩, ⟨10800, true⟩],
    [0x0bd7f8e2b004ad66735100066c6f000010274101000caf8f0000103c5901001137b700000cdb81010011a12f00,
     0x000c8721010011a12f00000dae7101001064c700015abb6101000bdc9f00001178c101000c9a7700001179a201,
     0x000c8721000011a12f01000c87210000118c1701000c87210000118c1701000c87210000118c1701000c872100,
     0x0011a12f01000c87210000118c1701000c87210000118c1701000c9c3900001176ff01000c9c390000118c1701,
     0x000c9c3900001176ff01000c9c3900001176ff01000c9c3900001176ff01000c9c390000118c1701000c9c3900,
     0x001176ff01000c9c3900001176ff01000c9c3900001176ff01000c9c390000118c1701000c9c3900001176ff01,
     0x000c9c3900001176ff01000c9c3900001176ff01000c9c390000118c1701000c9c3900001176ff01000c9c3900,
     0x001877f70100059b4100001765bf010006ad790000118c1701000c9c3900001176ff01000c9c3900001176ff01,
     0x000c9c3900001176ff01000c9c390000118c1701000c9c39000011e07701000c32c100001176ff01000c9c3900,
     0x001176ff01000c9c390000118c1701000c9c3900001176ff01000c9c3900001176ff01000c9c3900001136d601,
     0x000caf8f0000114e9101000caf8f0000114e9101000caf8f0000114e9101000caf8f000011e23901000caf8f00,
     0x00114e9101000caf8f0000114e9101000caf8f0000114e9101000caf8f0000114e9101000caf8f000011e23901,
     0x000caf8f0000114e9101000caf8f0000114e9101000c1be7000011e23901000af497000013098901000a60ef00,
     0x00139d31010009cd47000014c4810100087bc700000279b1010001ba1700006d03e9010003750f000002e32901,
     0x00049c5f00010266e101],
    some ⟨⟨7200, false⟩, ⟨10800, true⟩, ⟨4, 5, 5, 0⟩, ⟨10, 5, 4, 86400⟩⟩⟩,
  ⟨"Africa/Casablanca", -1820,
    [⟨0, false⟩, ⟨3600, true⟩, ⟨3600, false⟩, ⟨0, true⟩],
    [0x0d6143a1c0030ad1ae410005997f00000814110100ac7457000089471101000b883f0001f374a5010009d7d300,
     0x00ca8951010005ae9700003219e101000793bf0000167f7901000c5b2f00001445f1010005451f0000a9002902,
     0x00360c9f0002a2976901000793bf0000167f79010006abb7000014eeb1010008124f0000139d31010009cd4700,
     0x0016813b010006c1b00000028de801000360d80000114db0010005c490000002cd300100066d5000000cb07001,
     0x00076a70000002e24801000700f800000cb0700100065838000002e248010008133000000cb070010005c49000,
     0x0002e2480100093a8000000c1cc80100049d4000000375f0010009ce2800000c1cc80100040998000002e24801,
     0x000af57802000f92b8030002e248020019f48803000375f0020019f488030002e248020019f48803000375f002,
     0x0019f488030002e24802001a8830030002e248020019f48803000375f0020019f488030002e24802001a883003,
     0x0002e248020019f48803000375f0020019f488030002e248020019f48803000375f0020019f488030002e24802,
     0x001a8830030002e248020019f48803000375f0020019f488030002e248020019f48803000375f0020019f48803,
     0x000375f0020019f488030002e248020019f48803000375f0020019f488030002e24802001a8830030002e24802,
     0x0019f48803000375f0020019f488030002e248020019f48803000375f0020019f48803000375f0020019f48803,
     0x0002e248020019f48803000375f0020019f488030002e24802001a8830030002e248020019f48803000375f002,
     0x0019f488030002e248020019f48803000375f0020019f48803000375f0020019f488030002e248020019f48803,
     0x000375f0020019f488030002e24802001a8830030002e248020019f48803000375f0020019f488030002e24802,
     0x0019f48803000375f0020019f48803000375f0020019f488030002e248020019f48803000375f0020019f48803,
     0x0002e24802001a8830030002e248020019f48803000375f0020019f488030002e248020019f48803000375f002,
     0x0019f48803000375f0020019f488030002e248020019f48803000375f0020019f488030002e24802001a883003,
     0x0002e248020019f48803000375f0020019f488030002e248020019f48803000375f0020019f48803000375f002,
     0x0019f488030002e248020019f48803000375f0020019f488030002e24802001a8830030002e248020019f48803,
     0x000375f0020019f488030002e248020019f48803000375f0020019f488030002e24802001a8830030002e24802,
     0x0019f48803000375f0020019f488030002e24802001a8830030002e248020019f48803000375f002],
    none⟩,
  ⟨"Africa/Ceuta", -1276,
    [⟨0, false⟩, ⟨3600, true⟩, ⟨3600, false⟩, ⟨7200, true⟩],
    [0x0bdf8f58000209fc0701000caf8f0000a6481101000e17e900002e239f01000dd8a100000f91d701000e6c4900,
     0x0010266001000e6b6800048b541c010009d7d30000ca8951010005ae9700003219e101000793bf0000167f7901,
     0x000c5b2f00001445f1010005451f0000a9002902003d4ea103000eff1002000eff1003000eff1002000eff1003,
     0x000eff1002000eff1003000eff1002000eff1003000f92b802000eff1003000eff1002000eff1003000eff1002,
     0x000eff1003000eff1002000eff1003000eff1002000eff1003000eff1002000f92b803],
    some ⟨⟨3600, false⟩, ⟨7200, true⟩, ⟨3, 5, 0, 7200⟩, ⟨10, 5, 0, 10800⟩⟩⟩,
  ⟨"Africa/El_Aaiun", -3168,
    [⟨-3600, false⟩, ⟨0, false⟩, ⟨3600, true⟩, ⟨3600, false⟩, ⟨0, true⟩],
    [0x0fc0b3160004f88bfb01000165b702000793bf0100167f7902000c5b2f01001445f1020005451f010381a43102,
     0x000793bf0100167f79020006abb7010014eeb1020008124f0100139d31020009cd47010016813b020006c1b001,
     0x00028de802000360d80100114db0020005c490010002cd300200066d5001000cb0700200076a70010002e24802,
     0x000700f801000cb0700200065838010002e248020008133001000cb070020005c490010002e2480200093a8001,
     0x000c1cc80200049d4001000375f0020009ce2801000c1cc80200040998010002e24802000af57803000f92b804,
     0x0002e248030019f48804000375f0030019f488040002e248030019f48804000375f0030019f488040002e24803,
     0x001a8830040002e248030019f48804000375f0030019f488040002e24803001a8830040002e248030019f48804,
     0x000375f0030019f488040002e248030019f48804000375f0030019f488040002e24803001a8830040002e24803,
     0x0019f48804000375f0030019f488040002e248030019f48804000375f0030019f48804000375f0030019f48804,
     0x0002e248030019f48804000375f0030019f488040002e24803001a8830040002e248030019f48804000375f003,
     0x0019f488040002e248030019f48804000375f0030019f48804000375f0030019f488040002e248030019f48804,
     0x000375f0030019f488040002e24803001a8830040002e248030019f48804000375f0030019f488040002e24803,
     0x0019f48804000375f0030019f48804000375f0030019f488040002e248030019f48804000375f0030019f48804,
     0x0002e24803001a8830040002e248030019f48804000375f0030019f488040002e248030019f48804000375f003,
     0x0019f48804000375f0030019f488040002e248030019f48804000375f0030019f488040002e24803001a883004,
     0x0002e248030019f48804000375f0030019f488040002e248030019f48804000375f0030019f48804000375f003,
     0x0019f488040002e248030019f48804000375f0030019f488040002e24803001a8830040002e248030019f48804,
     0x000375f0030019f488040002e248030019f48804000375f0030019f48804000375f0030019f488040002e24803,
     0x0019f48804000375f0030019f488040002e24803001a8830040002e248030019f48804000375f0030019f48804,
     0x0002e248030019f48804000375f0030019f488040002e24803001a8830040002e248030019f48804000375f003,
     0x0019f488040002e24803001a8830040002e248030019f48804000375f003],
    none⟩,
  ⟨"Africa/Johannesburg", 6720,
    [⟨5400, false⟩, ⟨7200, false⟩, ⟨10800, true⟩],
    [0x0ad3d81c00014cb8e28104a67bd182000efe2f01000efff102000efe2f01],
    none⟩,
  ⟨"Africa/Juba", 7588,
    [⟨7200, false⟩, ⟨10800, true⟩, ⟨10800, false⟩],
    [0x0f6661b5c0049fa3d041000dc1c70000103c5901000dd6df000010517101000dd6df000010274101000debf700,
     0x0010122901000e010f00000ffd1101000e162700000fe7f901000e405700000fbdc901000e556f0000103c5901,
     0x000dd6df000010274101000debf7000010122901000e162700000fe7f901000e2b3f00000fd2e101000e405700,
     0x000fbdc901000e556f0000103c5901000debf7000010122901000e010f0001acec650202796d5300],
    none⟩,
  ⟨"Africa/Khartoum", 7808,
    [⟨7200, false⟩, ⟨10800, true⟩, ⟨10800, false⟩],
    [0x0f6661a800049fa3de01000dc1c70000103c5901000dd6df000010517101000dd6df000010274101000debf700,
     0x0010122901000e010f00000ffd1101000e162700000fe7f901000e405700000fbdc901000e556f0000103c5901,
     0x000dd6df000010274101000debf7000010122901000e162700000fe7f901000e2b3f00000fd2e101000e405700,
     0x000fbdc901000e556f0000103c5901000debf7000010122901000e010f0001acec6502021789f300],
    none⟩,
  ⟨"Africa/Lagos", 815,
    [⟨0, false⟩, ⟨815, false⟩, ⟨1800, false⟩, ⟨3600, false⟩],
    [0x0c66db1510005a4ef2f100a59e3d1200aa7aba73],
    none⟩,
  ⟨"Africa/Maputo", 7818,
    [⟨7200, false⟩],
    [0x0cd0515f60],
    none⟩,
  ⟨"Africa/Monrovia", -2588,
    [⟨-2670, false⟩, ⟨0, false⟩],
    [0x0e021ad1c00636aedd21],
    none⟩,
  ⟨"Africa/Nairobi", 8836,
    [⟨9000, false⟩, ⟨10800, false⟩, ⟨9900, false⟩],
    [0x0cbc2127c0025ef085c1002d90678000d25cc88200a7ecd7c1],
    none⟩,
  ⟨"Africa/Ndjamena", 3612,
    [⟨3600, false⟩, ⟨7200, true⟩],
    [0x0d2a8c0e4007f7ff10c1000c06cf00],
    none⟩,
  ⟨"Africa/Sao_Tome", 1616,
    [⟨-2205, false⟩, ⟨0, false⟩, ⟨3600, false⟩],
    [0x09dff3db00034a9915010c762f9902001e133801],
    none⟩,
  ⟨"Africa/Tripoli", 3164,
    [⟨3600, false⟩, ⟨7200, true⟩, ⟨7200, false⟩],
    [0x0e1b501a4003bc8efec100067fc5000035524b010006e93d0000347d99010007a8d700005a4fa10202b437b700,
     0x00076b5101000f134700000efff101000f134700000f150901000f134700000f696901000ea9cf00000f3f3901,
     0x000efe2f00000ed5c101000f134700000f150901000f134700000efff101000f1347000011b8090200c0e39700,
     0x000f545101000f13470201c682e200000b74080100114db002],
    none⟩,
  ⟨"Africa/Tunis", 2444,
    [⟨561, false⟩, ⟨3600, false⟩, ⟨7200, true⟩],
    [0x09908547400381a3c5b1034da389120011e1580100082848020030732001000cb1510200139e1201000c1cc802,
     0x00018fe7010000a9a102000d584f01000efff102000f7afd01000e832302000dc0050103b79c9902000c1cc801,
     0x00120b8802000c9b58010122f2080200098ee001000eff1002000eff100100120b8802000c86400101b6ee6802,
     0x000c872101000e9679020011e15801000c1cc8020011e15801000cb0700200114db001],
    none⟩,
  ⟨"Africa/Windhoek", 4104,
    [⟨5400, false⟩, ⟨7200, false⟩, ⟨10800, true⟩, ⟨3600, true⟩],
    [0x0ad3d8bf80014cb83f0104a67bd182000efe2f0105fee57f03000dc54b0100114ccf03000cb151010011e07703,
     0x000c1da9010011e07703000cb1510100114ccf03000cb1510100114ccf03000cb1510100114ccf03000cb15101,
     0x00114ccf03000cb151010011e07703000c1da9010011e07703000cb1510100114ccf03000cb1510100114ccf03,
     0x000cb1510100114ccf03000cb1510100114ccf03000cb151010011e07703000cb1510100114ccf03000cb15101,
     0x00114ccf03000cb1510100114ccf03000cb1510100114ccf03000cb151010011e07703000c1da9010011e07703,
     0x000cb1510100114ccf03000cb1510100114ccf03000cb1510100114ccf03000cb151010004312501],
    none⟩]

end FeedSieve.Time.Zone
